import PublicSite.Booking.Site
import PublicSite.Identity.SignIn
import PublicSite.Seo.Site

/-!
# Features

The four features of the site.  Each is started from the configuration and leaves
a state of its own type, under its name.  They are started in a fixed order, and
the first one that fails decides.
-/

namespace PublicSite

/-- Content in every locale, and the locale that is used for everything else. -/
structure Locales where
  default : Locale
  catalog : Catalog

namespace Locales

/-- The content that the site is delivered with. -/
def ofConfig (config : Config) : Locales :=
  ⟨config.site.defaultLocale, Catalog.delivered⟩

end Locales

/-- A feature of the site. -/
inductive Feature where
  | locale
  | seo
  | booking
  | identity
  deriving DecidableEq, Repr

namespace Feature

/-- All features, in the order in which they are started. -/
def all : List Feature := [.locale, .seo, .booking, .identity]

/-- The name under which the state of a feature is registered. -/
def name : Feature → String
  | .locale => "sprouts_locale::Locales"
  | .seo => "sprouts_seo::Seo"
  | .booking => "sprouts_booking::Booking"
  | .identity => "sprouts_identity::Identity"

/-- The short name of a feature. -/
def code : Feature → String
  | .locale => "locale"
  | .seo => "seo"
  | .booking => "booking"
  | .identity => "identity"

/-- The feature with a short name. -/
def ofCode? : String → Option Feature
  | "locale" => some .locale
  | "seo" => some .seo
  | "booking" => some .booking
  | "identity" => some .identity
  | _ => none

/-- The names of everything that the site is built with. -/
def enabledNames : List String :=
  "server" :: all.map code

/-- The state that a feature leaves. -/
abbrev State : Feature → Type
  | .locale => Locales
  | .seo => Seo
  | .booking => Booking
  | .identity => Identity

/-- Why a feature was not started. -/
inductive StartFailure where
  | seo (failure : Failure SeoCause)
  | identity (failure : Failure IdentityCause)
  deriving DecidableEq, Repr

/-- What is said about it. -/
def StartFailure.message : StartFailure → String
  | .seo failure => failure.message
  | .identity failure => failure.message

/-- A feature after its start. -/
abbrev Started := FeatureEntry State

/-- Start a feature. -/
def start (feature : Feature) (config : Config) : Except StartFailure Started :=
  match feature with
  | .locale => .ok ⟨.locale, Locales.ofConfig config⟩
  | .seo => ((Seo.ofConfig config).mapError .seo).map fun seo => ⟨.seo, seo⟩
  | .booking => .ok ⟨.booking, Booking.ofConfig config⟩
  | .identity =>
      ((Identity.ofConfig config).mapError .identity).map fun identity => ⟨.identity, identity⟩

/-- Start several features in turn. -/
def startEach (config : Config) : List Feature → Except StartFailure (List Started)
  | [] => .ok []
  | feature :: rest => do
      let first ← feature.start config
      let others ← startEach config rest
      return first :: others

/-- Start every feature. -/
def startAll (config : Config) : Except StartFailure (List Started) :=
  startEach config all

end Feature

/-- The state of the whole site. -/
abbrev Site := SiteState Config Feature.State

/-- The state of the whole site while it is being put together. -/
abbrev SiteBuilder := StateBuilder Config Feature.State

end PublicSite
