import PublicSite.Locale
import PublicSite.Url.Address

/-!
# Configuration

The settings of the site in six sections.  Every setting has a default, so the
empty configuration is a usable one.
-/

namespace PublicSite

/-- Whether a discount takes a share of the price or a fixed amount. -/
inductive DiscountKind where
  | percent
  | amount
  deriving DecidableEq, Repr

namespace DiscountKind

/-- The code of a kind, as configuration and answers write it. -/
def code : DiscountKind → String
  | .percent => "percent"
  | .amount => "amount"

/-- The kind with a code. -/
def ofCode? : String → Option DiscountKind
  | "percent" => some .percent
  | "amount" => some .amount
  | _ => none

@[simp]
theorem ofCode?_code (kind : DiscountKind) : ofCode? kind.code = some kind := by
  cases kind <;> rfl

end DiscountKind

namespace Config

/-- Where the certificate and its key lie. -/
structure Ssl where
  certificate : String := "cert.pem"
  key : String := "key.pem"
  deriving DecidableEq, Repr

/-- Where requests are answered. -/
structure Server where
  address : Url.IpAddress := .v4 [0, 0, 0, 0]
  port : Nat := 4583
  ssl : Option Ssl := none
  deriving DecidableEq, Repr

/-- What the site is called to the outside. -/
structure Site where
  origin : String := "https://www.evolvesprouts.com"
  host : String := "www.evolvesprouts.com"
  defaultLocale : Locale := .en
  deriving DecidableEq, Repr

/-- Profiles and contact details. -/
structure Social where
  instagramUrl : Option String := none
  linkedinUrl : Option String := none
  whatsappUrl : Option String := none
  contactEmail : Option String := none
  businessAddress : Option String := none
  businessPhoneNumber : Option String := none
  deriving DecidableEq, Repr

/-- A discount rule as it is written down, before it is looked at. -/
structure StaticRule (Price : Type) where
  code : String
  kind : DiscountKind
  value : Price
  deriving DecidableEq, Repr

/-- Discounts and the service that takes reservations. -/
structure Booking where
  discounts : List (StaticRule Float) := [⟨"SPROUTS10", .percent, 10.0⟩]
  crmApiBaseUrl : Option String := none
  deriving Repr

/-- The sign-in service. -/
structure Identity where
  domain : Option String := none
  clientId : Option String := none
  redirectUri : Option String := none
  scopes : List String := []
  deriving DecidableEq, Repr

/-- What is logged, and how. -/
structure Logging where
  level : String := "info"
  json : Bool := false
  path : Option String := none
  deriving DecidableEq, Repr

end Config

/-- The settings of the site. -/
structure Config where
  server : Config.Server := {}
  site : Config.Site := {}
  social : Config.Social := {}
  booking : Config.Booking := {}
  identity : Config.Identity := {}
  logging : Config.Logging := {}
  deriving Repr

end PublicSite
