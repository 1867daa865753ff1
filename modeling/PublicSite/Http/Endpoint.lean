import PublicSite.Content.Script
import PublicSite.Text.Pieces

/-!
# Endpoints

What the path of a request leads to.  Fixed paths come before the paths of pages,
which begin with the code of a locale; what comes before a page's own path need
not be the code of one.  Paths are compared as they are written.
-/

namespace PublicSite.Http

open PublicSite.Text

/-- What a path leads to.  Parts of a path are as they are written. -/
inductive Endpoint where
  | health
  | reference
  | localeOfPath
  | content (code : List Char)
  | documentScript
  | sitemap
  | robots
  | root
  | localeHome (code : List Char)
  | localePage (code path : List Char)
  | quote
  | crmEndpoints
  | reservations
  | challenge
  deriving DecidableEq, Repr

namespace Endpoint

/-- The endpoints with fixed paths. -/
def fixed : List (String × Endpoint) :=
  [("/health", .health), ("/api/docs", .reference), ("/api/locale", .localeOfPath),
    (Content.scriptPath, .documentScript), ("/sitemap.xml", .sitemap),
    ("/robots.txt", .robots), ("/", .root), ("/api/booking/quote", .quote),
    ("/api/booking/endpoints", .crmEndpoints), ("/api/booking/reservations", .reservations),
    ("/api/identity/pkce", .challenge)]

/-- The endpoint with a fixed path. -/
def ofFixed? (path : List Char) : Option Endpoint :=
  (fixed.find? fun entry => entry.1.toList == path).map Prod.snd

/-- What the paths of content begin with. -/
def contentRoot : List Char := "/api/content/".toList

/-- The endpoint of content: one segment follows. -/
def ofContent? (path : List Char) : Option Endpoint :=
  if contentRoot.isPrefixOf path then
    let code := path.drop contentRoot.length
    if code.isEmpty || code.contains '/' then none else some (.content code)
  else none

/-- The endpoint of a page: the code of a locale, and perhaps the path of the
page in it. -/
def ofPage? : List Char → Option Endpoint
  | '/' :: rest =>
      let code := before (· == '/') rest
      if code.isEmpty then none
      else
        match startingAt (· == '/') rest with
        | [] => some (.localeHome code)
        | [_] => some (.localeHome code)
        | _ :: path => some (.localePage code path)
  | _ => none

/-- What a path leads to. -/
def ofPath? (path : List Char) : Option Endpoint :=
  (ofFixed? path).or ((ofContent? path).or (ofPage? path))

/-- The endpoint takes a body. -/
def takesBody : Endpoint → Bool
  | .quote => true
  | .reservations => true
  | _ => false

/-- The methods of an endpoint, as a header lists them. -/
def methods (endpoint : Endpoint) : String :=
  if endpoint.takesBody then "POST" else "GET,HEAD"

/-- A method is one of those of an endpoint. -/
def accepts (endpoint : Endpoint) (method : String) : Bool :=
  if endpoint.takesBody then method == "POST" else method == "GET" || method == "HEAD"

end Endpoint

end PublicSite.Http
