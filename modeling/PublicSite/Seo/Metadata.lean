import PublicSite.Json.Value
import PublicSite.Route
import PublicSite.Text.Blank

/-!
# Metadata of pages

What a page tells search engines about itself: its title and description, its
canonical path, the paths of the same page in every locale, and whether it may
be listed.
-/

namespace PublicSite.Seo

open PublicSite.Text

/-- What search engines may do with a page. -/
structure Robots where
  index : Bool
  follow : Bool
  deriving DecidableEq, Repr

namespace Robots

/-- What they may do with a page of a visibility. -/
def ofVisibility : Visibility → Robots
  | .indexed => ⟨true, true⟩
  | .placeholder => ⟨false, true⟩

/-- What they may do with the page for what does not exist. -/
def notFound : Robots := ⟨false, false⟩

/-- The directive in a document. -/
def text (robots : Robots) : String :=
  (if robots.index then "index" else "noindex") ++ ","
    ++ (if robots.follow then "follow" else "nofollow")

end Robots

/-- The path of a page for readers of one language. -/
structure Alternate where
  language : String
  href : String
  deriving DecidableEq, Repr

/-- The language of readers for whom there is no other path. -/
def anyLanguage : String := "x-default"

/-- The metadata of a page.  Paths are relative to the origin of the site. -/
structure Metadata where
  title : String
  description : String
  canonical : String
  alternates : List Alternate
  robots : Robots
  deriving DecidableEq, Repr

/-- The paths of a page in every locale, and the one in the default locale for
everyone else. -/
def pathAlternates (path : String) (default : Locale) : List Alternate :=
  let base := Path.normalize path.toList
  let href := fun locale => String.ofList (Path.localize base locale)
  (Locale.all.map fun locale => ⟨locale.code, href locale⟩) ++ [⟨anyLanguage, href default⟩]

namespace Metadata

/-- The metadata of a page under a locale. -/
def localized (locale default : Locale) (path title description : String)
    (visibility : Visibility) : Metadata where
  title
  description
  canonical := Path.localizeText path locale
  alternates := pathAlternates path default
  robots := Robots.ofVisibility visibility

/-- The metadata of the page for what does not exist. -/
def notFound (locale : Locale) (title description : String) : Metadata where
  title
  description
  canonical := Path.localizeText "/" locale
  alternates := []
  robots := Robots.notFound

end Metadata

/-- What they may do, as a value. -/
def Robots.toValue (robots : Robots) : Json.Value :=
  .object [("index", .bool robots.index), ("follow", .bool robots.follow)]

/-- An alternate, as a value. -/
def Alternate.toValue (alternate : Alternate) : Json.Value :=
  .object [("hreflang", .text alternate.language), ("href", .text alternate.href)]

/-- Metadata, as a value. -/
def Metadata.toValue (metadata : Metadata) : Json.Value :=
  .object [
    ("title", .text metadata.title),
    ("description", .text metadata.description),
    ("canonical", .text metadata.canonical),
    ("alternates", .array (metadata.alternates.map Alternate.toValue)),
    ("robots", metadata.robots.toValue)]

/-- The name of the site. -/
def siteName : String := "Evolve Sprouts"

/-- The description of a page that is still to be written. -/
def placeholderDescription (title : String) : String :=
  title ++ " — " ++ siteName

/-- A text without the slashes at its end. -/
def withoutSlashes (origin : String) : String :=
  String.ofList (dropEndWhile (· == '/') origin.toList)

/-- The absolute form of an href relative to an origin. -/
def absolute (origin href : String) : String :=
  withoutSlashes origin ++ href

/-- The rules for crawlers: everything may be visited, and there is a sitemap. -/
def robotsText (origin host : String) : String :=
  "User-agent: *\nAllow: /\n\nSitemap: " ++ withoutSlashes origin ++ "/sitemap.xml\nHost: "
    ++ host ++ "\n"

end PublicSite.Seo
