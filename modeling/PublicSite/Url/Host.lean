import PublicSite.Url.Address
import PublicSite.Url.Domain
import PublicSite.Url.Percent

/-!
# Hosts

A host is a domain name, an IPv4 address or an IPv6 address.  The host of a
special scheme is percent-decoded first and a name that ends in a number must be
an IPv4 address; the host of any other scheme is an opaque text.
-/

namespace PublicSite.Url

open PublicSite.Text

/-- Why a text is no URL. -/
inductive ParseError where
  | relativeWithoutBase
  | emptyHost
  | invalidPort
  | invalidIpv4
  | invalidIpv6
  | invalidInternationalName
  | invalidDomainCharacter
  deriving DecidableEq, Repr

/-- What an error says. -/
def ParseError.message : ParseError → String
  | .relativeWithoutBase => "relative URL without a base"
  | .emptyHost => "empty host"
  | .invalidPort => "invalid port number"
  | .invalidIpv4 => "invalid IPv4 address"
  | .invalidIpv6 => "invalid IPv6 address"
  | .invalidInternationalName => "invalid international domain name"
  | .invalidDomainCharacter => "invalid domain character"

/-- A host. -/
inductive Host where
  | domain (name : List Char)
  | ipv4 (address : Nat)
  | ipv6 (groups : List Nat)
  deriving DecidableEq, Repr

namespace Host

/-- The text of a host. -/
def print : Host → List Char
  | .domain name => name
  | .ipv4 address => printIpv4 address
  | .ipv6 groups => '[' :: printIpv6 groups ++ [']']

/-- Read an IPv6 address between brackets; the opening one has been read. -/
def parseBracketed (chars : List Char) : Except ParseError Host :=
  match chars.reverse with
  | ']' :: inside =>
      match parseIpv6? inside.reverse with
      | some groups => .ok (.ipv6 groups)
      | none => .error .invalidIpv6
  | _ => .error .invalidIpv6

/-- A name in ASCII form, which is an IPv4 address when it ends in a number. -/
def ofAscii (name : List Char) : Except ParseError Host :=
  if name.isEmpty then .error .emptyHost
  else if endsInNumber name then
    match parseIpv4? name with
    | some address => .ok (.ipv4 address)
    | none => .error .invalidIpv4
  else .ok (.domain name)

/-- Read the host of a special scheme. -/
def parseSpecial : List Char → Except ParseError Host
  | '[' :: rest => parseBracketed rest
  | chars =>
      match Domain.toAscii? (Utf8.decodeLossy (percentDecode chars)) with
      | none => .error .invalidInternationalName
      | some name => ofAscii name

/-- A character that no opaque host may hold. -/
def isForbidden (char : Char) : Bool :=
  "\x00\t\n\r #/:<>?@[\\]^|".toList.contains char

/-- Read the host of a scheme that is not special. -/
def parseOpaque : List Char → Except ParseError Host
  | '[' :: rest => parseBracketed rest
  | chars =>
      if chars.any isForbidden then .error .invalidDomainCharacter
      else .ok (.domain (percentEncode isControl chars))

end Host

end PublicSite.Url
