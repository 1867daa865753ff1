import PublicSite.Proofs.Booking.Reservation
import PublicSite.Proofs.Http.Pages
import PublicSite.Proofs.Identity.Settings

/-!
# The service stays available

A request is answered that the service is unavailable only when a feature is missing
from the site.  Nothing else that goes wrong with a request is told in this way, so a
site with all its features never says so.
-/

namespace PublicSite.Http

open PublicSite.Text

/-- The reply is not the one that a missing feature leads to. -/
def IsAvailable (reply : Reply) : Prop :=
  ∀ failed : Failure StateCause, reply ≠ Reply.ofStateFailure failed

theorem isAvailable_of_status {reply : Reply} (status : Nat) (isStatus : reply.status = status)
    (other : status ≠ 500) : IsAvailable reply := by
  rintro failed rfl
  exact other isStatus.symm

/-! ## Parts of a request -/

theorem isAvailable_withPart {part : List Char} {answer : String → Reply}
    (answers : ∀ text, IsAvailable (answer text)) : IsAvailable (withPart part answer) := by
  unfold withPart
  cases decodePart? part with
  | none => exact isAvailable_of_status 400 rfl (by decide)
  | some text => exact answers text

theorem isAvailable_withBody {α : Type} {request : Request} {record : Json.Record α}
    {answer : α → Reply} (answers : ∀ value, IsAvailable (answer value)) :
    IsAvailable (withBody request record answer) := by
  unfold withBody
  split
  · split
    · exact answers _
    · exact isAvailable_of_status 400 rfl (by decide)
    · exact isAvailable_of_status 422 rfl (by decide)
  · exact isAvailable_of_status 415 rfl (by decide)

/-! ## Answers -/

theorem isAvailable_localeOfPathReply (locales : Locales) (query : List Char) :
    IsAvailable (localeOfPathReply locales query) := by
  unfold localeOfPathReply
  split
  · exact isAvailable_of_status 400 rfl (by decide)
  · exact isAvailable_of_status 200 rfl (by decide)

/-- Content is refused only in a locale that there is not. -/
theorem isAvailable_contentReply (locales : Locales) (code : String) :
    IsAvailable (contentReply locales code) := by
  unfold contentReply Catalog.pageOf
  cases Locale.ofCode? code with
  | some locale => exact isAvailable_of_status 200 rfl (by decide)
  | none => exact isAvailable_of_status 404 rfl (by decide)

theorem isAvailable_localeReply (seo : Seo) (locales : Locales) (code path : String) :
    IsAvailable (localeReply seo locales code path) := by
  rw [← PageCall.reply, PageCall.reply_eq]
  refine isAvailable_of_status _ (Decision.status_reply seo locales _) ?_
  cases (PageCall.page code path).decision seo.defaultLocale <;> simp [Decision.status]

theorem isAvailable_quoteReply (booking : Booking) (request : Booking.QuoteRequest Float) :
    IsAvailable (quoteReply booking request) := by
  unfold quoteReply Booking.quote
  cases Booking.Price.isAmount request.basePrice with
  | true => exact isAvailable_of_status 200 rfl (by decide)
  | false => exact isAvailable_of_status 400 rfl (by decide)

/-- A reservation is refused with a message for the visitor. -/
theorem exists_message_of_validate {reservation : Booking.Reservation}
    {failed : Failure BookingCause} (refused : reservation.validate = .error failed) :
    ∃ message, failed = { cause := .invalidReservation message } := by
  unfold Booking.Reservation.validate at refused
  split at refused
  · exact ⟨_, (Except.error.inj refused).symm⟩
  · split at refused
    · exact nomatch refused
    · exact ⟨_, (Except.error.inj refused).symm⟩

theorem isAvailable_reservationReply (reservation : Booking.Reservation) :
    IsAvailable (reservationReply reservation) := by
  rw [reservationReply, Booking.Reservation.prepare_eq]
  cases validated : reservation.validate with
  | ok => exact isAvailable_of_status 200 rfl (by decide)
  | error failed =>
      obtain ⟨message, rfl⟩ := exists_message_of_validate validated
      exact isAvailable_of_status 400 rfl (by decide)

/-- Whoever cannot be sent to the service of sign-in is told so, and not that this
service is unavailable. -/
theorem isAvailable_challengeReply (identity : Identity) (occasion : Occasion) :
    IsAvailable (challengeReply identity occasion) := by
  have isTold : Reply.failure 500 "Sign-in unavailable" ≠
      Reply.failure 500 "Service unavailable" := by decide +kernel
  obtain ⟨client⟩ := identity
  cases client with
  | none => exact isAvailable_of_status 200 rfl (by decide)
  | some client =>
      cases parsed : Url.parse (client.domain ++ Identity.SignIn.authorizePath) with
      | ok url =>
          have read : Identity.readUrl "authorize URL" _ = .ok url :=
            Identity.readUrl_eq_ok_iff.mpr parsed
          simp only [challengeReply, Option.mapM_some, Identity.SignIn.authorizeUrl, read]
          exact isAvailable_of_status 200 rfl (by decide)
      | error source =>
          have read : Identity.readUrl "authorize URL" _ = _ :=
            Identity.readUrl_eq_error parsed
          intro failed
          simp only [challengeReply, Option.mapM_some, Identity.SignIn.authorizeUrl, read]
          exact isTold

/-! ## The whole service -/

variable {site : Site}

theorem isAvailable_reply (features : ∀ key, ∃ state, feature site key = .ok state)
    (occasion : Occasion) (request : Request) (endpoint : Endpoint) :
    IsAvailable (endpoint.reply site occasion request) := by
  obtain ⟨locales, isLocales⟩ := features .locale
  obtain ⟨seo, isSeo⟩ := features .seo
  obtain ⟨booking, isBooking⟩ := features .booking
  obtain ⟨identity, isIdentity⟩ := features .identity
  have pages : pageFeatures site = .ok (seo, locales) := by
    rw [pageFeatures, isSeo, isLocales]
    rfl
  cases endpoint with
  | health | reference => exact isAvailable_of_status 200 rfl (by decide)
  | localeOfPath =>
      simp only [Endpoint.reply, withLocales, isLocales]
      exact isAvailable_localeOfPathReply locales _
  | content code =>
      simp only [Endpoint.reply, withLocales, isLocales]
      exact isAvailable_withPart (isAvailable_contentReply locales)
  | documentScript =>
      simp only [Endpoint.reply, withLocales, isLocales]
      exact isAvailable_of_status 200 rfl (by decide)
  | sitemap | robots =>
      simp only [Endpoint.reply, withSeo, isSeo]
      exact isAvailable_of_status 200 rfl (by decide)
  | root =>
      simp only [Endpoint.reply, withSeo, isSeo]
      exact isAvailable_of_status 308 rfl (by decide)
  | localeHome code =>
      simp only [Endpoint.reply, withPages_ok pages]
      exact isAvailable_withPart fun code => isAvailable_localeReply seo locales code "/"
  | localePage code path =>
      simp only [Endpoint.reply, withPages_ok pages]
      exact isAvailable_withPart fun code =>
        isAvailable_withPart (isAvailable_localeReply seo locales code)
  | quote =>
      simp only [Endpoint.reply, withBooking, isBooking]
      exact isAvailable_withBody (isAvailable_quoteReply booking)
  | crmEndpoints =>
      simp only [Endpoint.reply, withBooking, isBooking]
      exact isAvailable_of_status 200 rfl (by decide)
  | reservations =>
      simp only [Endpoint.reply, withBooking, isBooking]
      exact isAvailable_withBody isAvailable_reservationReply
  | challenge =>
      simp only [Endpoint.reply, withIdentity, isIdentity]
      exact isAvailable_challengeReply identity occasion

/-- A site with all its features has an answer to every request. -/
theorem isAvailable_fullReply (features : ∀ key, ∃ state, feature site key = .ok state)
    (occasion : Occasion) (request : Request) :
    IsAvailable (fullReply site occasion request) := by
  unfold fullReply
  cases Endpoint.ofPath? request.path with
  | none =>
      obtain ⟨locales, isLocales⟩ := features .locale
      obtain ⟨seo, isSeo⟩ := features .seo
      have pages : pageFeatures site = .ok (seo, locales) := by
        rw [pageFeatures, isSeo, isLocales]
        rfl
      simp only [withPages_ok pages]
      exact isAvailable_of_status 404 rfl (by decide)
  | some endpoint =>
      by_cases accepted : endpoint.accepts request.method = true
      · simp only [accepted, if_true]
        exact isAvailable_reply features occasion request endpoint
      · simp only [accepted]
        exact isAvailable_of_status 405 rfl (by decide)

end PublicSite.Http
