import PublicSite.Seo.Document
import PublicSite.Seo.Sitemap
import PublicSite.Url.Parse

/-!
# The site as search engines see it

The origin of the site is reduced to scheme, host and port when the site starts,
and every absolute address is built from it.  The pages of the site are rendered
with the metadata and the structured data that belong to them.
-/

namespace PublicSite

open PublicSite.Text PublicSite.Link

/-- Why the site cannot be shown to search engines. -/
inductive SeoCause where
  /-- The origin is not a URL. -/
  | origin (source : Url.ParseError)
  /-- The origin is a URL of another scheme. -/
  | unsupportedOrigin (message : String)
  /-- The feature is missing from the state of the site. -/
  | state (failure : Failure StateCause)
  deriving DecidableEq, Repr

instance : Cause SeoCause where
  headline
    | .origin _ => "Invalid site origin"
    | .unsupportedOrigin _ => "Unsupported site origin"
    | .state _ => "SEO slice unavailable"
  detail
    | .origin source => source.message
    | .unsupportedOrigin message => message
    | .state failure => failure.message

/-- The site as search engines see it: its origin without a slash at the end, the
name of its host, the default locale, and its links. -/
structure Seo where
  origin : String
  host : String
  defaultLocale : Locale
  links : SiteLinks
  deriving DecidableEq, Repr

namespace Seo

/-- Reduce an origin to scheme, host and port; the answer has it with its host. -/
def normalizeOrigin (origin : String) : Except (Failure SeoCause) (String × String) :=
  match Url.parse (trimmed origin) with
  | .error source => inContext "site.origin" (failWith (.origin source))
  | .ok url =>
      let scheme := String.ofList url.scheme
      if scheme == "http" || scheme == "https" then
        let host := (url.host.map Url.Host.print).getD []
        .ok (String.ofList url.origin, String.ofList host)
      else
        inContext "site.origin" (failWith (.unsupportedOrigin
          ("expected http or https, got '" ++ scheme ++ "'")))

/-- The site as it is configured.  A blank host is replaced by that of the
origin. -/
def ofConfig (config : Config) : Except (Failure SeoCause) Seo := do
  let (origin, originHost) ← normalizeOrigin config.site.origin
  return {
    origin
    host := (nonBlank? config.site.host).getD originHost
    defaultLocale := config.site.defaultLocale
    links := SiteLinks.ofConfig config.social }

/-- The metadata of a page.  The description of a placeholder is made up from its
title, which is the one in the footer. -/
def routeMetadata (seo : Seo) (page : Page) (route : Route) : Metadata :=
  let copy := route.copy page.content
  let title := match route.visibility with
    | .indexed => copy.title
    | .placeholder => page.content.footerLabel route.path copy.title
  let description := match route.visibility with
    | .indexed => copy.description
    | .placeholder => placeholderDescription title
  Metadata.localized page.locale seo.defaultLocale route.path title description route.visibility

/-- The heading of a page: its label in the menu, or its title. -/
def heading (seo : Seo) (page : Page) (route : Route) : String :=
  page.content.menuLabel route.path (seo.routeMetadata page route).title

/-- What the schemas of a page are built from. -/
def schemaContext (seo : Seo) (page : Page) : SchemaContext :=
  ⟨seo.origin, page.locale, page.content, seo.links⟩

/-- The schemas of a page: the organization, what the page is about, and the way
to it from the home page. -/
def schemas (seo : Seo) (page : Page) (route : Route) : List Json.Value :=
  let context := seo.schemaContext page
  let subject := match route with
    | .home => [context.localBusiness]
    | .trainingCourse => [context.course]
    | _ => []
  let home := page.content.menuLabel Route.home.path page.content.pages.home.title
  let way :=
    if route = .home then []
    else [context.breadcrumbs [(home, .home), (seo.heading page route, route)]]
  context.organization :: subject ++ way

/-- The document of a page. -/
def routeDocument (seo : Seo) (page : Page) (route : Route) : Document where
  origin := seo.origin
  page
  metadata := seo.routeMetadata page route
  heading := seo.heading page route
  schemas := seo.schemas page route

/-- The document that is shown for what does not exist. -/
def notFoundDocument (seo : Seo) (page : Page) : Document where
  origin := seo.origin
  page
  metadata :=
    Metadata.notFound page.locale page.content.notFound.title page.content.notFound.description
  heading := page.content.notFound.title
  schemas := []

/-- The sitemap. -/
def sitemapXml (seo : Seo) (now : Moment) : String :=
  sitemapText seo.origin now

/-- The rules for crawlers. -/
def robotsTxt (seo : Seo) : String :=
  robotsText seo.origin seo.host

end Seo

end PublicSite
