import PublicSite.Config.Basic
import PublicSite.Json.Value

/-!
# Writing configuration

The settings as a tree of values, section by section, under the names by which
they are read.  A setting that is not made is null.
-/

namespace PublicSite.Config

open PublicSite.Json

/-- The section on the certificate. -/
def Ssl.toValue (ssl : Ssl) : Value :=
  .object [("cert", .text ssl.certificate), ("key", .text ssl.key)]

/-- The section on the server. -/
def Server.toValue (server : Server) : Value :=
  .object [
    ("address", .text server.address.print),
    ("port", .integer server.port),
    ("ssl", (server.ssl.map Ssl.toValue).getD .null)]

/-- The section on the site. -/
def Site.toValue (site : Site) : Value :=
  .object [
    ("origin", .text site.origin),
    ("host", .text site.host),
    ("default_locale", .text site.defaultLocale.code)]

/-- The section on profiles and contact details. -/
def Social.toValue (social : Social) : Value :=
  .object [
    ("instagram_url", .textOrNull social.instagramUrl),
    ("linkedin_url", .textOrNull social.linkedinUrl),
    ("whatsapp_url", .textOrNull social.whatsappUrl),
    ("contact_email", .textOrNull social.contactEmail),
    ("business_address", .textOrNull social.businessAddress),
    ("business_phone_number", .textOrNull social.businessPhoneNumber)]

/-- A discount rule. -/
def StaticRule.toValue (rule : StaticRule Float) : Value :=
  .object [("code", .text rule.code), ("type", .text rule.kind.code), ("value", .float rule.value)]

/-- The section on bookings. -/
def Booking.toValue (booking : Booking) : Value :=
  .object [
    ("discounts", .array (booking.discounts.map StaticRule.toValue)),
    ("crm_api_base_url", .textOrNull booking.crmApiBaseUrl)]

/-- The section on sign-in. -/
def Identity.toValue (identity : Identity) : Value :=
  .object [
    ("domain", .textOrNull identity.domain),
    ("client_id", .textOrNull identity.clientId),
    ("redirect_uri", .textOrNull identity.redirectUri),
    ("scopes", .array (identity.scopes.map .text))]

/-- The section on logging. -/
def Logging.toValue (logging : Logging) : Value :=
  .object [
    ("level", .text logging.level),
    ("json", .bool logging.json),
    ("path", .textOrNull logging.path)]

/-- All sections. -/
def toValue (config : Config) : Value :=
  .object [
    ("server", config.server.toValue),
    ("site", config.site.toValue),
    ("social", config.social.toValue),
    ("booking", config.booking.toValue),
    ("identity", config.identity.toValue),
    ("logging", config.logging.toValue)]

end PublicSite.Config
