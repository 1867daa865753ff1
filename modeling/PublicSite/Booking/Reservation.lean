import PublicSite.Booking.Cause
import PublicSite.Booking.Price
import PublicSite.Json.Record
import PublicSite.Text.Line

/-!
# Reservations

A reservation is sent on only when every text in it is a single line, the texts
that it cannot go without are not blank, and its total is a finite number that is
not negative.
-/

namespace PublicSite.Booking

open PublicSite.Text PublicSite.Json PublicSite.Json.Record

/-- A reservation as a visitor fills it in. -/
structure Reservation where
  attendeeName : String
  attendeeEmail : String
  attendeePhone : String
  childAgeGroup : String
  packageLabel : String
  monthLabel : String
  paymentMethod : String
  totalAmount : Float
  courseLabel : String
  scheduleDateLabel : Option String := none
  scheduleTimeLabel : Option String := none
  interestedTopics : Option String := none

namespace Reservation

/-- A text that may be left out. -/
def optionalField (name : String) : Record (Option String) :=
  withDefault name (Decoder.optional Decoder.text) none

/-- A reservation as it is read. -/
def record : Record Reservation :=
  Reservation.mk <$> required "attendeeName" Decoder.text
    <*> required "attendeeEmail" Decoder.text <*> required "attendeePhone" Decoder.text
    <*> required "childAgeGroup" Decoder.text <*> required "packageLabel" Decoder.text
    <*> required "monthLabel" Decoder.text <*> required "paymentMethod" Decoder.text
    <*> required "totalAmount" Decoder.float <*> required "courseLabel" Decoder.text
    <*> optionalField "scheduleDateLabel" <*> optionalField "scheduleTimeLabel"
    <*> optionalField "interestedTopics"

/-- A text reduced to one line, unless nothing is left of it. -/
def lineOf? (text : String) : Option String :=
  let line := singleLine text
  if line.isEmpty then none else some line

/-- The reservation with every text reduced to one line. -/
def sanitized (reservation : Reservation) : Reservation where
  attendeeName := singleLine reservation.attendeeName
  attendeeEmail := singleLine reservation.attendeeEmail
  attendeePhone := singleLine reservation.attendeePhone
  childAgeGroup := singleLine reservation.childAgeGroup
  packageLabel := singleLine reservation.packageLabel
  monthLabel := singleLine reservation.monthLabel
  paymentMethod := singleLine reservation.paymentMethod
  totalAmount := reservation.totalAmount
  courseLabel := singleLine reservation.courseLabel
  scheduleDateLabel := reservation.scheduleDateLabel.bind lineOf?
  scheduleTimeLabel := reservation.scheduleTimeLabel.bind lineOf?
  interestedTopics := reservation.interestedTopics.bind lineOf?

/-- The texts that a reservation cannot go without, with their names, in the order
in which they are checked. -/
def requiredTexts (reservation : Reservation) : List (String × String) :=
  [("attendeeName", reservation.attendeeName), ("attendeeEmail", reservation.attendeeEmail),
    ("attendeePhone", reservation.attendeePhone), ("packageLabel", reservation.packageLabel),
    ("monthLabel", reservation.monthLabel)]

/-- The name of the first required text that is blank. -/
def missingText? (reservation : Reservation) : Option String :=
  (reservation.requiredTexts.find? fun entry => isBlank entry.2.toList).map Prod.fst

/-- Check what a reservation cannot go without. -/
def validate (reservation : Reservation) : Except (Failure BookingCause) Unit :=
  match reservation.missingText? with
  | some name => failWith (.invalidReservation (name ++ " is required"))
  | none =>
      if Price.isAmount reservation.totalAmount then .ok ()
      else failWith (.invalidReservation "totalAmount must be a non-negative number")

/-- The reservation as it is sent on. -/
def prepare (reservation : Reservation) : Except (Failure BookingCause) Reservation := do
  let clean := reservation.sanitized
  clean.validate
  return clean

/-- A reservation, as a value. -/
def toValue (reservation : Reservation) : Value :=
  Value.ofPresent [
    ("attendeeName", some (.text reservation.attendeeName)),
    ("attendeeEmail", some (.text reservation.attendeeEmail)),
    ("attendeePhone", some (.text reservation.attendeePhone)),
    ("childAgeGroup", some (.text reservation.childAgeGroup)),
    ("packageLabel", some (.text reservation.packageLabel)),
    ("monthLabel", some (.text reservation.monthLabel)),
    ("paymentMethod", some (.text reservation.paymentMethod)),
    ("totalAmount", some (.float reservation.totalAmount)),
    ("courseLabel", some (.text reservation.courseLabel)),
    ("scheduleDateLabel", reservation.scheduleDateLabel.map .text),
    ("scheduleTimeLabel", reservation.scheduleTimeLabel.map .text),
    ("interestedTopics", reservation.interestedTopics.map .text)]

end Reservation

end PublicSite.Booking
