import PublicSite.Http.Endpoint
import PublicSite.Http.Failure
import PublicSite.Http.MediaType
import PublicSite.Url.Form

/-!
# The service

How every request is answered.  What a request finds outside of the site, the
time and fresh random texts, is an input, so the reply is a function of what goes
in.
-/

namespace PublicSite.Http

open PublicSite.Text PublicSite.Json PublicSite.Url

/-- What a request finds outside of the site: the time, for how many seconds the
service has been up, and fresh random texts. -/
structure Occasion where
  now : Moment
  uptime : Nat
  verifier : String
  nonce : String

/-- The version of the service. -/
def version : String := "0.0.0"

/-! ## Parts of a request -/

/-- A part of a path, decoded; nothing when its bytes are not UTF-8. -/
def decodePart? (part : List Char) : Option String :=
  (Utf8.decode? (percentDecode part)).map String.ofList

/-- A path cannot be decoded. -/
def undecodable : Reply :=
  Reply.refusal 400 "The path is not UTF-8"

/-- Answer with the decoded part of a path. -/
def withPart (part : List Char) (answer : String → Reply) : Reply :=
  match decodePart? part with
  | some text => answer text
  | none => undecodable

/-- Answer with the body, read by a record. -/
def withBody {α : Type} (request : Request) (record : Record α) (answer : α → Reply) : Reply :=
  if ((request.header? "content-type").map isJsonType).getD false then
    match Decoder.ofText record.decode request.body with
    | .ok value => answer value
    | .error .malformed => Reply.refusal 400 "The body is not JSON"
    | .error .misshapen => Reply.refusal 422 "The body has another shape"
  else Reply.refusal 415 "The body must be JSON"

/-! ## Features -/

/-- The state of a feature of the site. -/
def feature (site : Site) (key : Feature) : Except (Failure StateCause) (Feature.State key) :=
  site.require Feature.name key

/-- The search profile and the locales of the site. -/
def pageFeatures (site : Site) : Except (Failure SeoCause) (Seo × Locales) := do
  let seo ← (feature site .seo).mapError fun failed => { cause := .state failed }
  let locales ← (feature site .locale).mapError fun failed => { cause := .state failed }
  return (seo, locales)

/-! ## Pages -/

/-- How long pages and content may be kept. -/
def shortCache : String := "public, max-age=300"

/-- How long scripts and the sitemap may be kept. -/
def longCache : String := "public, max-age=3600"

/-- A document as a reply. -/
def documentReply (status : Nat) (document : Seo.Document) : Reply :=
  (Reply.html status document.render).cached shortCache

/-- The reply for what does not exist. -/
def notFoundReply (seo : Seo) (page : Page) : Reply :=
  documentReply 404 (seo.notFoundDocument page)

/-- The reply for a path under a locale: a page, a redirect from a former path, or
the page for what does not exist. -/
def pathReply (seo : Seo) (page : Page) (path : String) : Reply :=
  let clean := String.ofList (Path.sanitize path.toList)
  match Route.ofPath? clean with
  | some route => documentReply 200 (seo.routeDocument page route)
  | none =>
      match Redirect.find? clean with
      | some redirect => Reply.redirect (redirect.href page.locale)
      | none => notFoundReply seo page

/-- The reply for a path under the code of a locale; a code that is not known
leads to the page for what does not exist, in the default locale. -/
def localeReply (seo : Seo) (locales : Locales) (code path : String) : Reply :=
  match locales.catalog.pageOf code with
  | .ok page => pathReply seo page path
  | .error _ => notFoundReply seo (locales.catalog.page seo.defaultLocale)

/-- The reply for the root of the site. -/
def rootReply (seo : Seo) : Reply :=
  Reply.redirect (Route.home.localized seo.defaultLocale)

/-- The reply for a path that leads nowhere, in the locale that the path belongs
to. -/
def fallbackReply (seo : Seo) (locales : Locales) (path : List Char) : Reply :=
  notFoundReply seo (locales.catalog.page (Path.resolve locales.default path))

/-! ## Answers of the interface -/

/-- The health of the service. -/
def healthReply (occasion : Occasion) : Reply :=
  { Reply.json 200 (.object [
      ("status", .text "up"),
      ("version", .text version),
      ("uptime", .integer occasion.uptime)]) with
    cacheControl := some "no-store, no-cache, must-revalidate"
    pragma := some "no-cache" }

/-- The value of the only parameter with a name; the outer answer is nothing when
there are several. -/
def onlyPair? (name : String) (pairs : List Pair) : Option (Option (List Char)) :=
  match (pairs.filter fun pair => pair.1 == name.toList).map Prod.snd with
  | [] => some none
  | [value] => some (some value)
  | _ => none

/-- The locale that a path belongs to, and the path without it. -/
def localeOfPathReply (locales : Locales) (query : List Char) : Reply :=
  match onlyPair? "path" (formPairs query) with
  | none => Reply.refusal 400 "The path is given twice"
  | some found =>
      let path := found.getD []
      let locale := Path.resolve locales.default path
      Reply.json 200 (.object [
        ("locale", .text locale.code),
        ("direction", .text locale.direction.code),
        ("path", .text (String.ofList (Path.normalize path)))])

/-- The content in the locale with a code. -/
def contentReply (locales : Locales) (code : String) : Reply :=
  match locales.catalog.pageOf code with
  | .ok page => (Reply.json 200 page.content.value).cached shortCache
  | .error failed => Reply.ofLocaleFailure failed

/-- The script on locales. -/
def documentScriptReply (locales : Locales) : Reply where
  status := 200
  contentType := some "text/javascript; charset=utf-8"
  cacheControl := some longCache
  body := Content.documentScript locales.default

/-- The sitemap. -/
def sitemapReply (seo : Seo) (now : Moment) : Reply where
  status := 200
  contentType := some "application/xml; charset=utf-8"
  cacheControl := some longCache
  body := seo.sitemapXml now

/-- The rules for crawlers. -/
def robotsReply (seo : Seo) : Reply where
  status := 200
  contentType := some "text/plain; charset=utf-8"
  body := seo.robotsTxt

/-- A quote. -/
def quoteReply (booking : Booking) (request : Booking.QuoteRequest Float) : Reply :=
  match Booking.quote booking.rules request booking.defaultLocale with
  | .ok quote => Reply.json 200 quote.toValue
  | .error failed => Reply.ofBookingFailure failed

/-- Where discounts are asked for and reservations are sent to. -/
def crmEndpointsReply (booking : Booking) : Reply :=
  Reply.json 200 (Value.ofPresent [
    ("discountsApiUrl", booking.discountsEndpoint.map .text),
    ("reservationsApiUrl", booking.reservationsEndpoint.map .text)])

/-- A reservation as it is to be sent on. -/
def reservationReply (reservation : Booking.Reservation) : Reply :=
  match reservation.prepare with
  | .ok prepared => Reply.json 200 prepared.toValue
  | .error failed => Reply.ofBookingFailure failed

/-- A fresh verifier with its challenge, and the URL to sign in at, if anyone
can. -/
def challengeReply (identity : Identity) (occasion : Occasion) : Reply :=
  let challenge := Identity.challenge occasion.verifier
  let url := identity.client.mapM fun client => client.authorizeUrl challenge occasion.nonce
  match url with
  | .error failed => Reply.ofIdentityFailure failed
  | .ok found =>
      (Reply.json 200 (Value.ofPresent [
        ("verifier", some (.text occasion.verifier)),
        ("challenge", some (.text challenge)),
        ("challengeMethod", some (.text Identity.challengeMethod)),
        ("state", some (.text occasion.nonce)),
        ("authorizeUrl", found.map fun url => .text url.text)])).cached "no-store"

/-- The reference of the interface; its text is made elsewhere. -/
def referenceReply : Reply :=
  Reply.html 200 ""

/-! ## Requests -/

/-- Answer with the search profile of the site. -/
def withSeo (site : Site) (answer : Seo → Reply) : Reply :=
  match feature site .seo with
  | .ok seo => answer seo
  | .error failed => Reply.ofStateFailure failed

/-- Answer with the search profile and the locales of the site. -/
def withPages (site : Site) (answer : Seo → Locales → Reply) : Reply :=
  match pageFeatures site with
  | .ok (seo, locales) => answer seo locales
  | .error failed => Reply.ofSeoFailure failed

/-- Answer with the locales of the site. -/
def withLocales (site : Site) (answer : Locales → Reply) : Reply :=
  match feature site .locale with
  | .ok locales => answer locales
  | .error failed => Reply.ofStateFailure failed

/-- Answer with the bookings of the site. -/
def withBooking (site : Site) (answer : Booking → Reply) : Reply :=
  match feature site .booking with
  | .ok booking => answer booking
  | .error failed => Reply.ofStateFailure failed

/-- Answer with the sign-in of the site. -/
def withIdentity (site : Site) (answer : Identity → Reply) : Reply :=
  match feature site .identity with
  | .ok identity => answer identity
  | .error failed => Reply.ofStateFailure failed

/-- The reply of an endpoint to a request whose method it accepts. -/
def Endpoint.reply (site : Site) (occasion : Occasion) (request : Request) : Endpoint → Reply
  | .health => healthReply occasion
  | .reference => referenceReply
  | .localeOfPath => withLocales site fun locales => localeOfPathReply locales request.query
  | .content code => withPart code fun code =>
      withLocales site fun locales => contentReply locales code
  | .documentScript => withLocales site documentScriptReply
  | .sitemap => withSeo site fun seo => sitemapReply seo occasion.now
  | .robots => withSeo site robotsReply
  | .root => withSeo site rootReply
  | .localeHome code => withPart code fun code =>
      withPages site fun seo locales => localeReply seo locales code "/"
  | .localePage code path => withPart code fun code => withPart path fun path =>
      withPages site fun seo locales => localeReply seo locales code path
  | .quote => withBody request Booking.QuoteRequest.record fun quoteRequest =>
      withBooking site fun booking => quoteReply booking quoteRequest
  | .crmEndpoints => withBooking site crmEndpointsReply
  | .reservations => withBody request Booking.Reservation.record fun reservation =>
      withBooking site fun _ => reservationReply reservation
  | .challenge => withIdentity site fun identity => challengeReply identity occasion

/-- The reply to a request, with its body. -/
def fullReply (site : Site) (occasion : Occasion) (request : Request) : Reply :=
  match Endpoint.ofPath? request.path with
  | none => withPages site fun seo locales => fallbackReply seo locales request.path
  | some endpoint =>
      if endpoint.accepts request.method then endpoint.reply site occasion request
      else Reply.methodNotAllowed endpoint.methods

/-- The reply to a request.  A request for the head alone is answered without a
body. -/
def respond (site : Site) (occasion : Occasion) (request : Request) : Reply :=
  let reply := fullReply site occasion request
  if request.method == "HEAD" then reply.withoutBody else reply

end PublicSite.Http
