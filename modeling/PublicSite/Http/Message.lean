import PublicSite.Json.Printer
import PublicSite.Text.Ascii
import PublicSite.Text.Pieces

/-!
# Requests and replies

A request names a target, which is a path with perhaps a query, or a whole web
address.  A reply has a status, a few headers, and a body.
-/

namespace PublicSite.Http

open PublicSite.Text PublicSite.Json

/-- A request.  Names of headers ignore case. -/
structure Request where
  method : String
  target : String
  headers : List (String × String)
  body : String

namespace Request

/-- The header with a name. -/
def header? (request : Request) (name : String) : Option String :=
  (request.headers.find? fun header =>
    sameIgnoringCase header.1.toList name.toList).map Prod.snd

/-- The text behind the first place where two slashes follow a colon. -/
def afterScheme? : List Char → Option (List Char)
  | ':' :: '/' :: '/' :: rest => some rest
  | _ :: rest => afterScheme? rest
  | [] => none

/-- The target without a scheme, a host and a fragment. -/
def resource (request : Request) : List Char :=
  let target := before (· == '#') request.target.toList
  if target.head? == some '/' then target
  else
    match afterScheme? target with
    | none => target
    | some address => startingAt (fun char => char == '/' || char == '?') address

/-- The path of the target, as it is written. -/
def path (request : Request) : List Char :=
  match before (· == '?') request.resource with
  | [] => ['/']
  | path => path

/-- The query of the target, as it is written. -/
def query (request : Request) : List Char :=
  (startingAt (· == '?') request.resource).drop 1

end Request

/-- A reply. -/
structure Reply where
  status : Nat
  contentType : Option String := none
  cacheControl : Option String := none
  pragma : Option String := none
  location : Option String := none
  allow : Option String := none
  body : String := ""
  deriving DecidableEq, Repr

namespace Reply

/-- A document. -/
def html (status : Nat) (body : String) : Reply where
  status
  contentType := some "text/html; charset=utf-8"
  body

/-- A value. -/
def json (status : Nat) (value : Value) : Reply where
  status
  contentType := some "application/json"
  body := value.compactText

/-- A message that says what went wrong. -/
def failure (status : Nat) (message : String) : Reply :=
  json status (.object [("status", .integer status), ("message", .text message)])

/-- A request that is refused before it is looked at. -/
def refusal (status : Nat) (message : String) : Reply where
  status
  contentType := some "text/plain; charset=utf-8"
  body := message

/-- A permanent redirect. -/
def redirect (location : String) : Reply where
  status := 308
  location := some location

/-- The method is not one of those that are allowed. -/
def methodNotAllowed (allow : String) : Reply where
  status := 405
  allow := some allow

/-- The reply with a rule for caches. -/
def cached (reply : Reply) (rule : String) : Reply :=
  { reply with cacheControl := some rule }

/-- The reply without its body. -/
def withoutBody (reply : Reply) : Reply :=
  { reply with body := "" }

end Reply

end PublicSite.Http
