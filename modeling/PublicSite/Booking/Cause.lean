import PublicSite.Registry

/-!
# Why a booking fails

A quote or a reservation is refused with a message for the visitor.
-/

namespace PublicSite

/-- Why a booking fails. -/
inductive BookingCause where
  | invalidQuote (message : String)
  | invalidReservation (message : String)
  /-- The feature is missing from the state of the site. -/
  | state (failure : Failure StateCause)
  deriving DecidableEq, Repr

instance : Cause BookingCause where
  headline
    | .invalidQuote _ => "Invalid quote request"
    | .invalidReservation _ => "Invalid reservation"
    | .state _ => "Booking slice unavailable"
  detail
    | .invalidQuote message => message
    | .invalidReservation message => message
    | .state failure => failure.message

end PublicSite
