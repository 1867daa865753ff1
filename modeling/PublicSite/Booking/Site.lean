import PublicSite.Booking.Quote
import PublicSite.Booking.Reservation

/-!
# Bookings on the site

The rules and the addresses that the site was configured with.  The addresses of
the service are known only when its base is secure.
-/

namespace PublicSite

open PublicSite.Booking

/-- Bookings as they are configured. -/
structure Booking where
  rules : List (DiscountRule Float)
  defaultLocale : Locale
  discountsEndpoint : Option String
  reservationsEndpoint : Option String

namespace Booking

/-- A text that is not empty. -/
def presentText? (text : String) : Option String :=
  if text.isEmpty then none else some text

/-- Bookings as they are configured. -/
def ofConfig (config : Config) : Booking :=
  let base := config.booking.crmApiBaseUrl.getD ""
  { rules := configuredRules config.booking.discounts
    defaultLocale := config.site.defaultLocale
    discountsEndpoint := presentText? (discountsUrl base)
    reservationsEndpoint := presentText? (reservationsUrl base) }

end Booking

end PublicSite
