import PublicSite.Text.Pieces
import PublicSite.Text.Ascii

/-!
# Internet addresses

Two readings of an IP address.  Inside a URL an IPv4 address may have one to four
parts in decimal, octal or hexadecimal, and the last part fills all the bytes
that are left; it is always written with four decimal parts.  In configuration
an address is four decimal parts without leading zeros, or eight groups of
hexadecimal digits with at most one run of zeros left out.
-/

namespace PublicSite.Url

open PublicSite.Text

/-! ## IPv4 inside URLs -/

/-- One part of an IPv4 address: a number with an optional base mark.  A mark
with no digits is zero. -/
def ipv4Number? (chars : List Char) : Option Nat :=
  let (base, digits) := match chars with
    | '0' :: 'x' :: rest => (16, rest)
    | '0' :: 'X' :: rest => (16, rest)
    | '0' :: digit :: rest => (8, digit :: rest)
    | _ => (10, chars)
  if chars.isEmpty then none
  else
    digits.foldlM (fun value digit => do
      let digitValue ← hexValue? digit
      if digitValue < base then some (value * base + digitValue) else none) 0

/-- A name whose last part is a number is meant as an IPv4 address. -/
def endsInNumber (name : List Char) : Bool :=
  let parts := (pieces (· == '.') name).reverse
  let last? := match parts with
    | [] :: others => others.head?
    | last :: _ => some last
    | [] => none
  match last? with
  | none => false
  | some last => (!last.isEmpty && last.all Char.isDigit) || (ipv4Number? last).isSome

/-- Put the parts of an IPv4 address together: each but the last is one byte. -/
def joinIpv4? (parts : List Nat) : Option Nat :=
  match parts.reverse with
  | [] => none
  | last :: leading =>
      if last < Nat.pow 256 (4 - leading.length) ∧ leading.all (· ≤ 255) then
        some (leading.reverse.zipIdx.foldl
          (fun total part => total + part.1 * Nat.pow 256 (3 - part.2)) last)
      else none

/-- Read an IPv4 address as URLs write it. -/
def parseIpv4? (name : List Char) : Option Nat := do
  let parts := pieces (· == '.') name
  let parts := if parts.getLast? == some [] then parts.dropLast else parts
  if parts.length > 4 then none
  joinIpv4? (← parts.mapM ipv4Number?)

/-- An IPv4 address in four decimal parts. -/
def printIpv4 (address : Nat) : List Char :=
  join ['.'] ([address / 0x1000000 % 256, address / 0x10000 % 256, address / 0x100 % 256,
    address % 256].map decimalDigits)

/-! ## IPv6 -/

/-- Four decimal parts without leading zeros, none above 255. -/
def parseDotted? (chars : List Char) : Option (List Nat) := do
  let parts ← (pieces (· == '.') chars).mapM fun part =>
    if part.isEmpty || !part.all Char.isDigit || part.length > 3
        || (part.length > 1 && part.head? == some '0') then none
    else if decimalValue part ≤ 255 then some (decimalValue part) else none
  if parts.length = 4 then some parts else none

/-- A group of an IPv6 address: one to four hexadecimal digits. -/
def ipv6Group? (chars : List Char) : Option Nat :=
  if chars.isEmpty || chars.length > 4 then none
  else chars.foldlM (fun value digit => (hexValue? digit).map (value * 16 + ·)) 0

/-- Groups between colons; the last one may be an IPv4 address, which counts as
two groups. -/
def ipv6Groups? (parts : List (List Char)) : Option (List Nat) :=
  match parts with
  | [] => some []
  | [last] =>
      if last.contains '.' then
        match parseDotted? last with
        | some [a, b, c, d] => some [a * 256 + b, c * 256 + d]
        | _ => none
      else (ipv6Group? last).map fun group => [group]
  | first :: others => do return (← ipv6Group? first) :: (← ipv6Groups? others)

/-- Cut a text at its first pair of colons. -/
def splitDoubleColon? : List Char → Option (List Char × List Char)
  | [] => none
  | ':' :: ':' :: rest => some ([], rest)
  | char :: rest => (splitDoubleColon? rest).map fun parts => (char :: parts.1, parts.2)

/-- The eight groups of an IPv6 address. -/
def parseIpv6? (chars : List Char) : Option (List Nat) :=
  let groupsOf := fun part : List Char =>
    if part.isEmpty then some [] else ipv6Groups? (pieces (· == ':') part)
  match splitDoubleColon? chars with
  | none => do
      let groups ← groupsOf chars
      if groups.length = 8 then some groups else none
  | some (left, right) => do
      if left.contains '.' then none
      let leading ← groupsOf left
      let trailing ← groupsOf right
      let count := leading.length + trailing.length
      if count ≤ 7 then some (leading ++ List.replicate (8 - count) 0 ++ trailing) else none

/-- The longest run of zeros in a list of groups, the first of the longest ones,
as its place and length.  `place` is that of the first group given. -/
def longestZeros (place : Nat) : List Nat → Nat × Nat
  | [] => (place, 0)
  | group :: rest =>
      let here := if group = 0 then 1 + (rest.takeWhile (· == 0)).length else 0
      let later := longestZeros (place + 1) rest
      if later.2 > here then later else (place, here)

/-- An IPv6 address with its longest run of at least two zeros left out. -/
def printIpv6 (groups : List Nat) : List Char :=
  let write := fun part : List Nat => join [':'] (part.map hexDigits)
  let (place, count) := longestZeros 0 groups
  if count < 2 then write groups
  else write (groups.take place) ++ ':' :: ':' :: write (groups.drop (place + count))

/-! ## Addresses in configuration -/

/-- An IP address. -/
inductive IpAddress where
  | v4 (parts : List Nat)
  | v6 (groups : List Nat)
  deriving DecidableEq, Repr

/-- Read an address as configuration writes it. -/
def IpAddress.parse? (text : String) : Option IpAddress :=
  let chars := text.toList
  match parseDotted? chars with
  | some parts => some (.v4 parts)
  | none => (parseIpv6? chars).map .v6

/-- The canonical form of an address; an IPv6 address that holds an IPv4 one
shows it in decimal. -/
def IpAddress.print : IpAddress → String
  | .v4 parts => String.ofList (join ['.'] (parts.map decimalDigits))
  | .v6 [0, 0, 0, 0, 0, 0xFFFF, high, low] =>
      let dotted := join ['.'] ([high / 256, high % 256, low / 256, low % 256].map decimalDigits)
      String.ofList ("::ffff:".toList ++ dotted)
  | .v6 groups => String.ofList (printIpv6 groups)

end PublicSite.Url
