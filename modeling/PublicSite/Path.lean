import PublicSite.Link.Href
import PublicSite.Locale
import PublicSite.Url.Parse

/-!
# Paths with a locale

The first segment of a path names its locale when it is the code of one; any
other path belongs to the default locale, so resolution never fails.  A path is
first reduced to a clean pathname, then its locale is stripped or replaced.
-/

namespace PublicSite.Path

open PublicSite.Text

/-- The query or the fragment begins here. -/
def endsPathname (char : Char) : Bool :=
  char == '#' || char == '?'

/-- A text made to begin with one slash and to end in none, unless nothing else
is left. -/
def frame (pathname : List Char) : List Char :=
  match dropEndWhile (· == '/') (before endsPathname pathname) with
  | [] => ['/']
  | '/' :: rest => '/' :: rest
  | rest => '/' :: rest

/-- Reduce a path or a web address to a clean pathname.  A blank text is the root
and a bare number sign stays as it is; so does a web address that is not well
formed. -/
def sanitize (path : List Char) : List Char :=
  let value := trim path
  if value.isEmpty then ['/']
  else if value == ['#'] then value
  else if Link.isHttp value then
    match Url.parseChars value with
    | .ok url => frame url.path
    | .error _ => value
  else frame value

/-- The segments of a path that hold something. -/
def segments (path : List Char) : List (List Char) :=
  fields (· == '/') path

/-- The locale that a segment names. -/
def segmentLocale? (segment : List Char) : Option Locale :=
  Locale.ofCode? (String.ofList segment)

/-- The locale that the first segment of a path names. -/
def locale? (path : List Char) : Option Locale :=
  (segments (sanitize path)).head?.bind segmentLocale?

/-- The locale that a path belongs to. -/
def resolve (default : Locale) (path : List Char) : Locale :=
  (locale? path).getD default

/-- The clean pathname without its locale. -/
def normalize (path : List Char) : List Char :=
  let value := sanitize path
  match segments value with
  | [] => value
  | first :: rest =>
      if (segmentLocale? first).isSome then '/' :: join ['/'] rest else value

/-- The segment of a locale, with the slash before it. -/
def localeRoot (locale : Locale) : List Char :=
  '/' :: locale.code.toList

/-- The path under a locale, in place of the one it had. -/
def localize (path : List Char) (locale : Locale) : List Char :=
  let base := normalize path
  if base == ['/'] then localeRoot locale else localeRoot locale ++ base

/-- An href under a locale, with its query and fragment.  Links that leave the
site and a bare number sign stay as they are. -/
def localizeHref (href : List Char) (locale : Locale) : List Char :=
  let value := trim href
  if value.isEmpty then ['/']
  else if value == ['#'] || Link.isExternal value then value
  else
    let pathname := before endsPathname value
    localize (if pathname.isEmpty then ['/'] else pathname) locale ++ startingAt endsPathname value

/-- `localize` on strings. -/
def localizeText (path : String) (locale : Locale) : String :=
  String.ofList (localize path.toList locale)

/-- `localizeHref` on strings. -/
def localizeHrefText (href : String) (locale : Locale) : String :=
  String.ofList (localizeHref href.toList locale)

end PublicSite.Path
