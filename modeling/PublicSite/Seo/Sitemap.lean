import PublicSite.Calendar
import PublicSite.Decimal.Tenths
import PublicSite.Markup.Escape
import PublicSite.Seo.Metadata

/-!
# The sitemap

One entry for every locale and every indexed page, locale by locale.
-/

namespace PublicSite.Seo

open PublicSite.Decimal PublicSite.Markup

/-- How often a page changes. -/
inductive ChangeFrequency where
  | weekly
  | monthly
  deriving DecidableEq, Repr

/-- The name of a frequency. -/
def ChangeFrequency.code : ChangeFrequency → String
  | .weekly => "weekly"
  | .monthly => "monthly"

/-- An entry of the sitemap. -/
structure SitemapEntry where
  url : String
  lastModified : Moment
  changeFrequency : ChangeFrequency
  priority : Float32
  deriving DecidableEq, Repr

namespace SitemapEntry

/-- The entry of a page.  The home page changes more often and matters more. -/
def ofRoute (origin : String) (now : Moment) (locale : Locale) (route : Route) :
    SitemapEntry where
  url := absolute origin (route.localized locale)
  lastModified := now
  changeFrequency := if route = .home then .weekly else .monthly
  priority := if route = .home then 1.0 else 0.7

/-- An entry as an element. -/
def render (entry : SitemapEntry) : List Char :=
  "<url>\n<loc>".toList ++ escapeMarkup entry.url.toList ++ "</loc>\n<lastmod>".toList
    ++ entry.lastModified.print ++ "</lastmod>\n<changefreq>".toList
    ++ entry.changeFrequency.code.toList ++ "</changefreq>\n<priority>".toList
    ++ printTenths entry.priority ++ "</priority>\n</url>\n".toList

end SitemapEntry

/-- The entries of the sitemap. -/
def sitemap (origin : String) (now : Moment) : List SitemapEntry :=
  Locale.all.flatMap fun locale => Route.indexed.map (SitemapEntry.ofRoute origin now locale)

/-- What the sitemap begins with. -/
def sitemapOpening : List Char :=
  "<?xml version=\"1.0\" encoding=\"UTF-8\"?>
<urlset xmlns=\"http://www.sitemaps.org/schemas/sitemap/0.9\">
".toList

/-- What the sitemap ends with. -/
def sitemapClosing : List Char :=
  "</urlset>\n".toList

/-- The sitemap with these entries. -/
def renderSitemap (entries : List SitemapEntry) : List Char :=
  sitemapOpening ++ entries.flatMap SitemapEntry.render ++ sitemapClosing

/-- The sitemap of a site, as a string. -/
def sitemapText (origin : String) (now : Moment) : String :=
  String.ofList (renderSitemap (sitemap origin now))

end PublicSite.Seo
