import Mathlib.Data.List.Forall2
import PublicSite.Booking.Reservation
import PublicSite.Proofs.Failure
import PublicSite.Proofs.Text.Line

/-!
# What is sent on of a reservation

Reducing a text to one line does not change whether it is blank, so a reservation
is refused for the same reason before its texts are reduced and after.  What is
sent on holds single lines only, and sending it on again changes nothing.
-/

namespace PublicSite.Booking.Reservation

open PublicSite.Text PublicSite.Json

/-! ## The texts of a reservation -/

/-- The texts that may be left out, with their names. -/
def optionalTexts (reservation : Reservation) : List (String × Option String) :=
  [("scheduleDateLabel", reservation.scheduleDateLabel),
    ("scheduleTimeLabel", reservation.scheduleTimeLabel),
    ("interestedTopics", reservation.interestedTopics)]

/-- All texts of a reservation with their names, in the order in which the fields are
declared and written. -/
def texts (reservation : Reservation) : List (String × String) :=
  match reservation.toValue with
  | .object members => members.filterMap fun member =>
      member.2.text?.map fun text => (member.1, text)
  | _ => []

theorem texts_eq (reservation : Reservation) :
    reservation.texts =
      [("attendeeName", reservation.attendeeName), ("attendeeEmail", reservation.attendeeEmail),
        ("attendeePhone", reservation.attendeePhone),
        ("childAgeGroup", reservation.childAgeGroup),
        ("packageLabel", reservation.packageLabel), ("monthLabel", reservation.monthLabel),
        ("paymentMethod", reservation.paymentMethod),
        ("courseLabel", reservation.courseLabel)] ++
      reservation.optionalTexts.filterMap fun field =>
        field.2.map fun text => (field.1, text) := by
  obtain ⟨_, _, _, _, _, _, _, _, _, date, time, topics⟩ := reservation
  cases date <;> cases time <;> cases topics <;> rfl

/-- The texts that cannot be blank are checked in the order of their declaration. -/
theorem requiredTexts_sublist_texts (reservation : Reservation) :
    reservation.requiredTexts.Sublist reservation.texts := by
  rw [texts_eq]
  refine List.Sublist.trans ?_ (List.sublist_append_left _ _)
  refine .cons_cons _ (.cons_cons _ (.cons_cons _ (.cons _ (.cons_cons _ (.cons_cons _ ?_)))))
  exact List.nil_sublist _

/-! ## Reducing the texts -/

theorem lineOf?_eq_none_iff {text : String} :
    lineOf? text = none ↔ isBlank text.toList = true := by
  rw [lineOf?, isEmpty_singleLine]
  cases isBlank text.toList <;> simp

theorem lineOf?_eq_some_iff {text line : String} :
    lineOf? text = some line ↔ isBlank text.toList = false ∧ singleLine text = line := by
  rw [lineOf?, isEmpty_singleLine]
  cases isBlank text.toList <;> simp

theorem requiredTexts_sanitized (reservation : Reservation) :
    reservation.sanitized.requiredTexts =
      reservation.requiredTexts.map fun field => (field.1, singleLine field.2) :=
  rfl

theorem optionalTexts_sanitized (reservation : Reservation) :
    reservation.sanitized.optionalTexts =
      reservation.optionalTexts.map fun field => (field.1, field.2.bind lineOf?) :=
  rfl

theorem singleLine_of_mem_texts_sanitized (reservation : Reservation) :
    ∀ field ∈ reservation.sanitized.texts, singleLine field.2 = field.2 := by
  intro field member
  rw [texts_eq, List.mem_append] at member
  rcases member with always | optional
  · simp only [sanitized, List.mem_cons, List.not_mem_nil, or_false] at always
    rcases always with rfl | rfl | rfl | rfl | rfl | rfl | rfl | rfl <;>
      exact singleLine_singleLine _
  · rw [optionalTexts_sanitized, List.filterMap_map, List.mem_filterMap] at optional
    obtain ⟨⟨name, value⟩, _, reduced⟩ := optional
    obtain ⟨line, isLine, rfl⟩ := Option.map_eq_some_iff.mp reduced
    obtain ⟨text, _, found⟩ := Option.bind_eq_some_iff.mp isLine
    obtain ⟨_, rfl⟩ := lineOf?_eq_some_iff.mp found
    exact singleLine_singleLine text

theorem lineOf?_singleLine {text : String} (notBlank : isBlank text.toList = false) :
    lineOf? (singleLine text) = some (singleLine text) := by
  rw [lineOf?_eq_some_iff, toList_singleLine, isBlank_singleLineChars, singleLine_singleLine]
  exact ⟨notBlank, rfl⟩

theorem bind_lineOf?_bind_lineOf? (value : Option String) :
    (value.bind lineOf?).bind lineOf? = value.bind lineOf? := by
  cases value with
  | none => rfl
  | some text =>
      rw [Option.bind_some]
      cases line : lineOf? text with
      | none => rfl
      | some found =>
          obtain ⟨notBlank, rfl⟩ := lineOf?_eq_some_iff.mp line
          rw [Option.bind_some, lineOf?_singleLine notBlank]

/-- What was reduced is not reduced any further. -/
@[simp]
theorem sanitized_sanitized (reservation : Reservation) :
    reservation.sanitized.sanitized = reservation.sanitized := by
  simp only [sanitized, singleLine_singleLine, bind_lineOf?_bind_lineOf?]

/-! ## Checking -/

theorem missingText?_sanitized (reservation : Reservation) :
    reservation.sanitized.missingText? = reservation.missingText? := by
  rw [missingText?, missingText?, requiredTexts_sanitized, List.find?_map, Option.map_map]
  have sameBlank : ((fun field : String × String => isBlank field.2.toList) ∘
      fun field : String × String => (field.1, singleLine field.2)) =
        fun field => isBlank field.2.toList := by
    funext field
    dsimp only [Function.comp_apply]
    rw [toList_singleLine, isBlank_singleLineChars]
  rw [sameBlank]
  rfl

/-- A reservation is refused for the same reason before its texts are reduced and
after. -/
theorem validate_sanitized (reservation : Reservation) :
    reservation.sanitized.validate = reservation.validate := by
  rw [validate, validate, missingText?_sanitized]
  rfl

/-- The first required text that is blank is named. -/
theorem validate_of_isBlank {reservation : Reservation} {front back : List (String × String)}
    {name text : String} (split_eq : reservation.requiredTexts = front ++ (name, text) :: back)
    (blank : isBlank text.toList = true)
    (isFirst : ∀ earlier ∈ front, isBlank earlier.2.toList = false) :
    reservation.validate = failWith (.invalidReservation (name ++ " is required")) := by
  have found : reservation.missingText? = some name := by
    have nothing : front.find? (fun field => isBlank field.2.toList) = none :=
      List.find?_eq_none.mpr fun earlier member => by simp [isFirst earlier member]
    rw [missingText?, split_eq, List.find?_append, nothing, Option.none_or, List.find?_cons, blank]
    rfl
  rw [validate, found]

/-- The total is looked at when no required text is blank. -/
theorem validate_of_not_isBlank {reservation : Reservation}
    (complete : ∀ field ∈ reservation.requiredTexts, isBlank field.2.toList = false) :
    reservation.validate =
      if Price.isAmount reservation.totalAmount then .ok ()
      else failWith (.invalidReservation "totalAmount must be a non-negative number") := by
  have none : reservation.missingText? = none := by
    rw [missingText?, Option.map_eq_none_iff, List.find?_eq_none]
    exact fun field member => by simp [complete field member]
  rw [validate, none]

/-! ## Sending on -/

theorem prepare_eq (reservation : Reservation) :
    reservation.prepare = reservation.validate.map fun _ => reservation.sanitized := by
  rw [← validate_sanitized]
  change (reservation.sanitized.validate >>= fun _ => pure reservation.sanitized) = _
  cases reservation.sanitized.validate <;> rfl

/-- What is sent on of a reservation. -/
structure IsPrepared (clean reservation : Reservation) : Prop where
  totalAmount_eq : clean.totalAmount = reservation.totalAmount
  singleLines : ∀ field ∈ clean.texts, singleLine field.2 = field.2
  notBlank : ∀ field ∈ clean.optionalTexts, ∀ text ∈ field.2, isBlank text.toList = false
  absent_iff : List.Forall₂
    (fun after before => after.1 = before.1 ∧
      (after.2 = none ↔ ∀ text ∈ before.2, isBlank text.toList = true))
    clean.optionalTexts reservation.optionalTexts
  again : clean.prepare = .ok clean

theorem isPrepared_sanitized {reservation : Reservation} (valid : reservation.validate = .ok ()) :
    IsPrepared reservation.sanitized reservation where
  totalAmount_eq := rfl
  singleLines := reservation.singleLine_of_mem_texts_sanitized
  notBlank := by
    intro field member text present
    rw [optionalTexts_sanitized, List.mem_map] at member
    obtain ⟨before, _, rfl⟩ := member
    obtain ⟨written, _, found⟩ := Option.bind_eq_some_iff.mp present
    obtain ⟨notBlank, rfl⟩ := lineOf?_eq_some_iff.mp found
    rw [toList_singleLine, isBlank_singleLineChars, notBlank]
  absent_iff := by
    rw [optionalTexts_sanitized, List.forall₂_map_left_iff, List.forall₂_same]
    rintro ⟨name, value⟩ _
    refine ⟨rfl, ?_⟩
    cases value with
    | none => simp
    | some text => simpa using lineOf?_eq_none_iff
  again := by
    rw [prepare_eq, validate_sanitized, valid, sanitized_sanitized]
    rfl

/-- A reservation is sent on exactly when it passes the check, which reducing its
texts does not change; otherwise the refusal names the first of the five required texts
that is blank, in the order of declaration, and the total only when there is none. -/
theorem prepare_sends_or_refuses (reservation : Reservation) :
    reservation.sanitized.validate = reservation.validate ∧
      reservation.prepare = reservation.validate.map (fun _ => reservation.sanitized) ∧
      reservation.requiredTexts = [("attendeeName", reservation.attendeeName),
        ("attendeeEmail", reservation.attendeeEmail),
        ("attendeePhone", reservation.attendeePhone),
        ("packageLabel", reservation.packageLabel), ("monthLabel", reservation.monthLabel)] ∧
      reservation.requiredTexts.Sublist reservation.texts ∧
      (∀ front name text back, reservation.requiredTexts = front ++ (name, text) :: back →
        isBlank text.toList = true →
        (∀ earlier ∈ front, isBlank earlier.2.toList = false) →
        reservation.prepare = failWith (.invalidReservation (name ++ " is required"))) ∧
      ((∀ field ∈ reservation.requiredTexts, isBlank field.2.toList = false) →
        reservation.prepare =
          if Price.isAmount reservation.totalAmount then .ok reservation.sanitized
          else failWith (.invalidReservation "totalAmount must be a non-negative number")) ∧
      (∀ clean, reservation.prepare = .ok clean → IsPrepared clean reservation) := by
  refine ⟨validate_sanitized reservation, prepare_eq reservation, rfl,
    requiredTexts_sublist_texts reservation, ?_, ?_, ?_⟩
  · intro front name text back split_eq blank isFirst
    rw [prepare_eq, validate_of_isBlank split_eq blank isFirst]
    rfl
  · intro complete
    rw [prepare_eq, validate_of_not_isBlank complete]
    split <;> rfl
  · intro clean sent
    rw [prepare_eq] at sent
    obtain ⟨_, valid, rfl⟩ := map_eq_ok sent
    exact isPrepared_sanitized valid

/-- A name over two lines and a blank label for the time; and the same reservation with
neither an address nor a month, which is refused for the address. -/
theorem prepare_sends_tidied :
    let reservation : Reservation :=
      { attendeeName := " Mei \n Chan ", attendeeEmail := "mei@example.com",
        attendeePhone := "+852\u30009123", childAgeGroup := "", packageLabel := "Full course",
        monthLabel := "April", paymentMethod := "FPS", totalAmount := 8100.0, courseLabel := "",
        scheduleTimeLabel := some " \u2003" }
    let incomplete := { reservation with attendeeEmail := "\u3000", monthLabel := "" }
    (∃ clean, reservation.prepare = .ok clean ∧ clean.attendeeName = "Mei Chan" ∧
      clean.attendeePhone = "+852 9123" ∧ clean.scheduleTimeLabel = none ∧
      IsPrepared clean reservation) ∧
    incomplete.prepare = failWith (.invalidReservation "attendeeEmail is required") := by
  intro reservation incomplete
  obtain ⟨_, _, _, _, _, complete, prepared⟩ := prepare_sends_or_refuses reservation
  obtain ⟨_, _, _, _, refused, _, _⟩ := prepare_sends_or_refuses incomplete
  have accepted : Price.isAmount reservation.totalAmount = true := by decide
  have sent := complete (by decide)
  rw [if_pos accepted] at sent
  refine ⟨⟨_, sent, by decide, by decide, by decide, prepared _ sent⟩, ?_⟩
  exact refused [("attendeeName", reservation.attendeeName)] "attendeeEmail" "\u3000" _ rfl
    (by decide) (by decide)

end PublicSite.Booking.Reservation
