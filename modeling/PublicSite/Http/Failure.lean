import PublicSite.Feature
import PublicSite.Http.Message

/-!
# Replies to failures

What a visitor is told when a request fails.  Only a refused quote or reservation
and an unknown locale are told in detail.
-/

namespace PublicSite.Http.Reply

/-- A feature is missing. -/
def ofStateFailure (_ : Failure StateCause) : Reply :=
  failure 500 "Service unavailable"

/-- Content cannot be served. -/
def ofLocaleFailure (failed : Failure LocaleCause) : Reply :=
  match failed.cause with
  | .unsupported code => failure 404 ("Unsupported locale: " ++ code)
  | .state source => ofStateFailure source
  | .malformed _ => failure 500 "Content unavailable"
  | .invalid _ => failure 500 "Content unavailable"

/-- A page cannot be shown. -/
def ofSeoFailure (failed : Failure SeoCause) : Reply :=
  match failed.cause with
  | .state source => ofStateFailure source
  | .origin _ => failure 500 "Page unavailable"
  | .unsupportedOrigin _ => failure 500 "Page unavailable"

/-- A booking is refused. -/
def ofBookingFailure (failed : Failure BookingCause) : Reply :=
  match failed.cause with
  | .invalidQuote message => failure 400 message
  | .invalidReservation message => failure 400 message
  | .state source => ofStateFailure source

/-- Nobody can sign in. -/
def ofIdentityFailure (failed : Failure IdentityCause) : Reply :=
  match failed.cause with
  | .state source => ofStateFailure source
  | .config _ => failure 500 "Sign-in unavailable"
  | .url _ => failure 500 "Sign-in unavailable"

end PublicSite.Http.Reply
