import PublicSite.Url.Host

/-!
# URLs

A URL by its parts, as the WHATWG URL standard has them, and the text it is
written in.  The parts are kept in the form in which they are written, so
printing only puts them together.
-/

namespace PublicSite

open PublicSite.Url PublicSite.Text

/-- A URL.  `path` is the written path; that of a special scheme begins with a
slash. -/
structure Url where
  scheme : List Char
  username : List Char
  password : Option (List Char)
  host : Option Host
  port : Option Nat
  path : List Char
  query : Option (List Char)
  fragment : Option (List Char)
  deriving DecidableEq, Repr

namespace Url

/-- The port that a scheme uses when none is given. -/
def defaultPort? (scheme : List Char) : Option Nat :=
  match String.ofList scheme with
  | "http" => some 80
  | "ws" => some 80
  | "https" => some 443
  | "wss" => some 443
  | "ftp" => some 21
  | _ => none

/-- The schemes whose addresses have a host and a path of segments. -/
def isSpecial (scheme : List Char) : Bool :=
  ["http", "https", "ws", "wss", "ftp", "file"].contains (String.ofList scheme)

/-- The user information of a URL with the sign that ends it. -/
def printUser (url : Url) : List Char :=
  match url.password with
  | some password => url.username ++ ':' :: password ++ ['@']
  | none => if url.username.isEmpty then [] else url.username ++ ['@']

/-- The port of a URL with the colon before it. -/
def printPort (url : Url) : List Char :=
  match url.port with
  | some port => ':' :: decimalDigits port
  | none => []

/-- The scheme and host, up to the path. -/
def printAuthority (url : Url) : List Char :=
  match url.host with
  | some host =>
      url.scheme ++ "://".toList ++ url.printUser ++ host.print ++ url.printPort
  | none =>
      url.scheme ++ ':' :: (if "//".toList.isPrefixOf url.path then "/.".toList else [])

/-- The query with its question mark and the fragment with its number sign. -/
def printTail (url : Url) : List Char :=
  (match url.query with | some query => '?' :: query | none => [])
    ++ (match url.fragment with | some fragment => '#' :: fragment | none => [])

/-- The text of a URL. -/
def print (url : Url) : List Char :=
  url.printAuthority ++ url.path ++ url.printTail

/-- The text of a URL, as a string. -/
def text (url : Url) : String :=
  String.ofList url.print

/-- The origin of a URL that has a host: scheme, host, and the port unless it is
the scheme's own. -/
def origin (url : Url) : List Char :=
  match url.host with
  | some host => url.scheme ++ "://".toList ++ host.print ++ url.printPort
  | none => "null".toList

end Url

end PublicSite
