import PublicSite.Proofs.Link.Public
import PublicSite.Proofs.Text.Pieces

/-!
# The form of mail addresses

A mail address is a local part, an at-sign, and a domain with a dot that has something on
both of its sides.  Exactly the texts of this form are kept, whatever white space stands
around them.
-/

namespace PublicSite.Link

open PublicSite.Text

/-! ## The form -/

/-- A part of a mail address holds something, but no white space and no at-sign. -/
structure IsMailPart (part : List Char) : Prop where
  notEmpty : part ≠ []
  noBlank : ∀ char ∈ part, isBlankChar char = false
  noSign : '@' ∉ part

/-- A local part, and a domain that is cut at one of its dots.  Any of the three parts may
hold further dots. -/
def IsMailAddress (address : List Char) : Prop :=
  ∃ name first rest, IsMailPart name ∧ IsMailPart first ∧ IsMailPart rest ∧
    address = name ++ '@' :: (first ++ '.' :: rest)

/-! ## The check -/

/-- A dot stands inside a text when the text can be cut there into two that hold something. -/
theorem hasInnerDot_iff {domain : List Char} :
    hasInnerDot domain = true ↔
      ∃ first rest, first ≠ [] ∧ rest ≠ [] ∧ domain = first ++ '.' :: rest := by
  constructor
  · intro inner
    cases domain with
    | nil => exact nomatch inner
    | cons head tail =>
        obtain ⟨front, back, cut⟩ := List.append_of_mem (List.contains_iff_mem.mp inner)
        have notEmpty : tail ≠ [] := by
          rintro rfl
          simp at cut
        have whole : tail = front ++ '.' :: (back ++ [tail.getLast notEmpty]) := by
          have joined := List.dropLast_concat_getLast notEmpty
          rw [cut] at joined
          simpa using joined.symm
        exact ⟨head :: front, _, List.cons_ne_nil _ _, by simp, congrArg (head :: ·) whole⟩
  · rintro ⟨first, rest, firstGiven, restGiven, rfl⟩
    obtain ⟨head, front, rfl⟩ := List.exists_cons_of_ne_nil firstGiven
    have kept : (front ++ '.' :: rest).dropLast = front ++ '.' :: rest.dropLast := by
      rw [List.dropLast_append_of_ne_nil (List.cons_ne_nil _ _),
        List.dropLast_cons_of_ne_nil restGiven]
    change (front ++ '.' :: rest).dropLast.contains '.' = true
    rw [kept]
    simp

/-- There is no white space, and the only at-sign stands behind something and before a
domain. -/
theorem isEmail_iff_exists_cut {address : List Char} :
    isEmail address = true ↔
      (∀ char ∈ address, isBlankChar char = false) ∧
        ∃ name domain, address = name ++ '@' :: domain ∧ name ≠ [] ∧ '@' ∉ name ∧
          '@' ∉ domain ∧ hasInnerDot domain = true := by
  have noBlank_iff : (!address.any isBlankChar) = true ↔
      ∀ char ∈ address, isBlankChar char = false := by
    simp
  rw [isEmail, Bool.and_eq_true, noBlank_iff]
  refine and_congr_right fun _ => ?_
  constructor
  · intro accepted
    split at accepted
    · exact nomatch accepted
    · rename_i name domain isCut
      obtain ⟨sign, isSign, noneBefore, whole⟩ := splitOnce?_eq_some_iff.mp isCut
      obtain rfl := beq_iff_eq.mp isSign
      have noSign : '@' ∉ name := fun member => absurd (noneBefore '@' member) (by decide)
      obtain ⟨⟨given, noneBehind⟩, inner⟩ : (name ≠ [] ∧ '@' ∉ domain) ∧
          hasInnerDot domain = true := by
        simpa using accepted
      exact ⟨name, domain, whole, given, noSign, noneBehind, inner⟩
  · rintro ⟨name, domain, rfl, given, noSign, noneBehind, inner⟩
    rw [splitOnce?_append (beq_eq_false_of_not_mem noSign) rfl]
    simp [given, noneBehind, inner]

/-- The check accepts the texts that have the form of a mail address. -/
theorem isEmail_iff {address : List Char} : isEmail address = true ↔ IsMailAddress address := by
  rw [isEmail_iff_exists_cut]
  constructor
  · rintro ⟨noBlank, name, domain, rfl, given, noSign, noneBehind, inner⟩
    obtain ⟨first, rest, firstGiven, restGiven, rfl⟩ := hasInnerDot_iff.mp inner
    simp only [List.forall_mem_append, List.forall_mem_cons] at noBlank
    obtain ⟨blankName, -, blankFirst, -, blankRest⟩ := noBlank
    simp only [List.mem_append, List.mem_cons, not_or] at noneBehind
    obtain ⟨noneFirst, -, noneRest⟩ := noneBehind
    exact ⟨name, first, rest, ⟨given, blankName, noSign⟩, ⟨firstGiven, blankFirst, noneFirst⟩,
      ⟨restGiven, blankRest, noneRest⟩, rfl⟩
  · rintro ⟨name, first, rest, isName, isFirst, isRest, rfl⟩
    refine ⟨?_, name, _, rfl, isName.notEmpty, isName.noSign, ?_,
      hasInnerDot_iff.mpr ⟨first, rest, isFirst.notEmpty, isRest.notEmpty, rfl⟩⟩
    · simp only [List.forall_mem_append, List.forall_mem_cons]
      exact ⟨isName.noBlank, by decide, isFirst.noBlank, by decide, isRest.noBlank⟩
    · simp [isFirst.noSign, isRest.noSign]

/-- A mail address is not blank. -/
theorem IsMailAddress.not_isBlank {address : List Char} (isMail : IsMailAddress address) :
    isBlank address = false := by
  obtain ⟨name, first, rest, -, -, -, rfl⟩ := isMail
  have sign : isBlankChar '@' = false := by decide
  simp [isBlank, sign]

/-! ## What is kept -/

/-- What is kept of a value is its text without the white space around it, if that has the
form of a mail address. -/
theorem email?_eq_some_iff_isMailAddress {value : Option String} {address : String} :
    email? value = some address ↔
      value.map trimmed = some address ∧ IsMailAddress address.toList := by
  rw [email?_eq_some_iff, isEmail_iff]
  refine and_congr_left fun isMail => ?_
  rw [Option.bind_eq_some_iff, Option.map_eq_some_iff]
  refine exists_congr fun text => and_congr_right fun _ => ?_
  rw [nonBlank?_eq_some_iff, and_iff_right_iff_imp]
  rintro rfl
  rw [← isBlank_trim, ← toList_trimmed, isMail.not_isBlank]

/-- A mail address is kept just when the text without the white space around it has the form
of one, and what was kept once is kept again as it is. -/
theorem email?_keeps_form (value : Option String) :
    (∀ address, email? value = some address ↔
      value.map trimmed = some address ∧ IsMailAddress address.toList) ∧
      (email? value = none ↔ ∀ text ∈ value, ¬ IsMailAddress (trim text.toList)) ∧
      email? (email? value) = email? value := by
  refine ⟨fun address => email?_eq_some_iff_isMailAddress, ?_, email?_email? value⟩
  rw [Option.eq_none_iff_forall_ne_some]
  simp only [ne_eq, email?_eq_some_iff_isMailAddress, Option.map_eq_some_iff, Option.mem_def]
  constructor
  · intro refused text isText isMail
    exact refused (trimmed text) ⟨⟨text, isText, rfl⟩, by rwa [toList_trimmed]⟩
  · rintro refused _ ⟨⟨text, isText, rfl⟩, isMail⟩
    exact refused text isText (by rwa [toList_trimmed] at isMail)

end PublicSite.Link
