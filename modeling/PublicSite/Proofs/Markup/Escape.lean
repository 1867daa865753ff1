import Mathlib.Data.List.Basic
import PublicSite.Markup.Escape

/-!
# Undoing escapes

The entity of a character is read back as that character, whatever follows it.
So an escaped text gives the text back, and none of the characters that could end
an element or an attribute is left in it.
-/

namespace PublicSite.Markup

theorem unescape_cons {char : Char} (notMark : char ≠ '&') (rest : List Char) :
    unescape (char :: rest) = char :: unescape rest := by
  rw [unescape.eq_def]
  split <;> simp_all

/-- An entity stands for its character. -/
theorem unescape_entity_append (char : Char) (rest : List Char) :
    unescape (entity char ++ rest) = char :: unescape rest := by
  unfold entity
  split
  · rfl
  · rfl
  · rfl
  · rfl
  · rfl
  · rename_i notMark _ _ _ _
    exact unescape_cons notMark rest

/-- A character as it stands in a document, with what follows it. -/
theorem escapeText_cons (char : Char) (rest : List Char) :
    escapeText (char :: rest) =
      (if isReserved char then entity char else [char]) ++ escapeText rest :=
  rfl

theorem escapeText_append (front back : List Char) :
    escapeText (front ++ back) = escapeText front ++ escapeText back :=
  List.flatMap_append

@[simp]
theorem unescape_escapeText (chars : List Char) : unescape (escapeText chars) = chars := by
  induction chars with
  | nil => rfl
  | cons char rest ih =>
      rw [escapeText_cons]
      cases reserved : isReserved char with
      | true => rw [if_pos rfl, unescape_entity_append, ih]
      | false =>
          have notMark : char ≠ '&' := by
            rintro rfl
            exact absurd reserved (by decide)
          rw [if_neg Bool.false_ne_true, List.singleton_append, unescape_cons notMark, ih]

/-! ## What an escaped text holds -/

theorem isMarkup_of_isReserved {char : Char} (reserved : isReserved char = true) :
    isMarkup char = true := by
  rw [isMarkup, reserved, Bool.true_or]

/-- A character that is not reserved is written as it is. -/
theorem entity_of_not_isMarkup {char : Char} (plain : isMarkup char = false) :
    entity char = [char] := by
  unfold entity
  split
  · exact absurd plain (by decide)
  · exact absurd plain (by decide)
  · exact absurd plain (by decide)
  · exact absurd plain (by decide)
  · exact absurd plain (by decide)
  · rfl

/-- The entity of a reserved character is a mark with nothing reserved behind it. -/
theorem exists_entity_eq_mark_cons {char : Char} (reserved : isMarkup char = true) :
    ∃ name, entity char = '&' :: name ∧ ∀ found ∈ name, isMarkup found = false := by
  have kinds : char = '&' ∨ char = '<' ∨ char = '>' ∨ char = '"' ∨ char = '\'' := by
    simpa [isMarkup, isReserved, or_assoc] using reserved
  have plain {name : List Char} (none : name.any isMarkup = false) :
      ∀ found ∈ name, isMarkup found = false := by
    simpa using none
  rcases kinds with rfl | rfl | rfl | rfl | rfl
  · exact ⟨"amp;".toList, rfl, plain (by decide)⟩
  · exact ⟨"lt;".toList, rfl, plain (by decide)⟩
  · exact ⟨"gt;".toList, rfl, plain (by decide)⟩
  · exact ⟨"quot;".toList, rfl, plain (by decide)⟩
  · exact ⟨"#39;".toList, rfl, plain (by decide)⟩

/-- An entity holds nothing reserved but its mark. -/
theorem eq_mark_of_mem_entity {source char : Char} (member : char ∈ entity source)
    (reserved : isMarkup char = true) : char = '&' := by
  cases sourceReserved : isMarkup source with
  | true =>
      obtain ⟨name, written, plain⟩ := exists_entity_eq_mark_cons sourceReserved
      rw [written] at member
      rcases List.mem_cons.mp member with mark | inside
      · exact mark
      · rw [plain char inside] at reserved
        exact absurd reserved Bool.false_ne_true
  | false =>
      rw [entity_of_not_isMarkup sourceReserved, List.mem_singleton] at member
      rw [member, sourceReserved] at reserved
      exact absurd reserved Bool.false_ne_true

/-- Neither does an escaped text. -/
theorem eq_mark_of_mem_escapeText {chars : List Char} {char : Char}
    (member : char ∈ escapeText chars) (reserved : isReserved char = true) : char = '&' := by
  obtain ⟨source, _, inside⟩ := List.mem_flatMap.mp member
  cases sourceReserved : isReserved source with
  | true =>
      rw [sourceReserved, if_pos rfl] at inside
      exact eq_mark_of_mem_entity inside (isMarkup_of_isReserved reserved)
  | false =>
      rw [sourceReserved, if_neg Bool.false_ne_true, List.mem_singleton] at inside
      rw [inside, sourceReserved] at reserved
      exact absurd reserved Bool.false_ne_true

theorem not_mem_escapeText {char : Char} (reserved : isReserved char = true)
    (notMark : char ≠ '&') (chars : List Char) : char ∉ escapeText chars :=
  fun member => notMark (eq_mark_of_mem_escapeText member reserved)

/-! ## Texts in the sitemap -/

/-- Taking a text as it is makes no difference. -/
theorem escapeMarkup_eq_flatMap (chars : List Char) :
    escapeMarkup chars = chars.flatMap entity := by
  unfold escapeMarkup
  split
  · rfl
  · rename_i nothingReserved
    have plain : ∀ char ∈ chars, isMarkup char = false := by
      simpa using nothingReserved
    calc
      chars = chars.flatMap fun char => [char] := (List.flatMap_singleton' chars).symm
      _ = chars.flatMap entity :=
        List.flatMap_congr fun char member => (entity_of_not_isMarkup (plain char member)).symm

theorem escapeMarkup_cons (char : Char) (rest : List Char) :
    escapeMarkup (char :: rest) = entity char ++ escapeMarkup rest := by
  rw [escapeMarkup_eq_flatMap, escapeMarkup_eq_flatMap, List.flatMap_cons]

@[simp]
theorem unescape_escapeMarkup (chars : List Char) : unescape (escapeMarkup chars) = chars := by
  induction chars with
  | nil => rfl
  | cons char rest ih => rw [escapeMarkup_cons, unescape_entity_append, ih]

theorem eq_mark_of_mem_escapeMarkup {chars : List Char} {char : Char}
    (member : char ∈ escapeMarkup chars) (reserved : isMarkup char = true) : char = '&' := by
  rw [escapeMarkup_eq_flatMap] at member
  obtain ⟨source, _, inside⟩ := List.mem_flatMap.mp member
  exact eq_mark_of_mem_entity inside reserved

theorem not_mem_escapeMarkup {char : Char} (reserved : isMarkup char = true)
    (notMark : char ≠ '&') (chars : List Char) : char ∉ escapeMarkup chars :=
  fun member => notMark (eq_mark_of_mem_escapeMarkup member reserved)

/-- What begins with a character that the front does not hold begins behind the front. -/
theorem suffix_of_suffix_append {char : Char} {rest front back : List Char}
    (absent : char ∉ front) (ends : char :: rest <:+ front ++ back) : char :: rest <:+ back := by
  induction front with
  | nil => exact ends
  | cons first others ih =>
      rcases List.suffix_cons_iff.mp ends with whole | later
      · injection whole with same
        exact absurd (same ▸ List.mem_cons_self) absent
      · exact ih (mt (List.mem_cons_of_mem first) absent) later

/-- A text begins with the entity of a reserved character. -/
def BeginsEntity (chars : List Char) : Prop :=
  ∃ char, isMarkup char = true ∧ entity char <+: chars

/-- Every mark in an escaped text begins the entity of a reserved character. -/
theorem beginsEntity_of_suffix_escapeMarkup {chars rest : List Char}
    (ends : '&' :: rest <:+ escapeMarkup chars) :
    BeginsEntity ('&' :: rest) := by
  induction chars with
  | nil => exact absurd (List.suffix_nil.mp ends) (List.cons_ne_nil '&' rest)
  | cons first others ih =>
      rw [escapeMarkup_cons] at ends
      cases reserved : isMarkup first with
      | true =>
          obtain ⟨name, written, plain⟩ := exists_entity_eq_mark_cons reserved
          -- The mark is the first one of this entity, or it stands behind the whole entity.
          have noMark : '&' ∉ name := fun member => absurd (plain '&' member) (by decide)
          rw [written, List.cons_append] at ends
          rcases List.suffix_cons_iff.mp ends with whole | later
          · exact ⟨first, reserved, by rw [whole, written]; exact List.prefix_append _ _⟩
          · exact ih (suffix_of_suffix_append noMark later)
      | false =>
          rw [entity_of_not_isMarkup reserved] at ends
          refine ih (suffix_of_suffix_append (List.mem_singleton.not.mpr ?_) ends)
          rintro rfl
          exact absurd reserved (by decide)

end PublicSite.Markup
