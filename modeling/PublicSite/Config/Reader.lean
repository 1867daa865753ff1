import PublicSite.Config.Basic
import PublicSite.Json.Record

/-!
# Reading configuration

The settings are read from a tree of values.  Types are strict: a number is not
taken for a text nor a text for a number.  What a section leaves out has its
default; a section may also be a list of its settings in order.
-/

namespace PublicSite.Config

open PublicSite.Json PublicSite.Json.Record

/-- A port number. -/
def portDecoder : Decoder Nat :=
  Decoder.natural 65535

/-- A text that may be left out. -/
def optionalText (name : String) : Record (Option String) :=
  withDefault name (Decoder.optional Decoder.text) none

/-- The section on the certificate. -/
def sslRecord : Record Ssl :=
  let standard : Ssl := {}
  Ssl.mk <$> withDefault "cert" Decoder.text standard.certificate
    <*> withDefault "key" Decoder.text standard.key

/-- The section on the server. -/
def serverRecord : Record Server :=
  let standard : Server := {}
  Server.mk <$> withDefault "address" (Decoder.parsed Url.IpAddress.parse?) standard.address
    <*> withDefault "port" portDecoder standard.port
    <*> withDefault "ssl" (Decoder.optional sslRecord.decode) standard.ssl

/-- A locale by its code. -/
def localeDecoder : Decoder Locale :=
  Decoder.choice Decoder.nullOrEmpty Locale.ofCode?

/-- The section on the site. -/
def siteRecord : Record Site :=
  let standard : Site := {}
  Site.mk <$> withDefault "origin" Decoder.text standard.origin
    <*> withDefault "host" Decoder.text standard.host
    <*> withDefault "default_locale" localeDecoder standard.defaultLocale

/-- The section on profiles and contact details. -/
def socialRecord : Record Social :=
  Social.mk <$> optionalText "instagram_url" <*> optionalText "linkedin_url"
    <*> optionalText "whatsapp_url" <*> optionalText "contact_email"
    <*> optionalText "business_address" <*> optionalText "business_phone_number"

/-- A discount rule; its kind goes by two names. -/
def staticRuleRecord : Record (StaticRule Float) :=
  StaticRule.mk <$> withDefault "code" Decoder.text ""
    <*> field ["type", "kind"] (Decoder.choice Decoder.nullOrEmpty DiscountKind.ofCode?)
      (some .percent)
    <*> withDefault "value" Decoder.float 0.0

/-- The section on bookings. -/
def bookingRecord : Record Booking :=
  let standard : Booking := {}
  Booking.mk <$> withDefault "discounts" (Decoder.list staticRuleRecord.decode) standard.discounts
    <*> optionalText "crm_api_base_url"

/-- The section on sign-in. -/
def identityRecord : Record Identity :=
  Identity.mk <$> optionalText "domain" <*> optionalText "client_id"
    <*> optionalText "redirect_uri" <*> withDefault "scopes" (Decoder.list Decoder.text) []

/-- The section on logging. -/
def loggingRecord : Record Logging :=
  let standard : Logging := {}
  Logging.mk <$> withDefault "level" Decoder.text standard.level
    <*> withDefault "json" Decoder.bool standard.json <*> optionalText "path"

/-- All sections. -/
def record : Record Config :=
  Config.mk <$> withDefault "server" serverRecord.decode {}
    <*> withDefault "site" siteRecord.decode {} <*> withDefault "social" socialRecord.decode {}
    <*> withDefault "booking" bookingRecord.decode {}
    <*> withDefault "identity" identityRecord.decode {}
    <*> withDefault "logging" loggingRecord.decode {}

/-- Read the settings from a tree, whose top must be an object. -/
def ofValue? (value : Value) : Option Config :=
  (record.decodeObject value.draft).toOption

end PublicSite.Config
