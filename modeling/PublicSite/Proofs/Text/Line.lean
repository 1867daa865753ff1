import PublicSite.Proofs.Text.Pieces
import PublicSite.Text.Line

/-!
# Texts on one line

Reducing a text to one line keeps its words.  So a line stays as it is, and
nothing is left of a text exactly when it is blank.
-/

namespace PublicSite.Text

theorem isBlankChar_space : isBlankChar ' ' = true := by
  decide

@[simp]
theorem words_singleLineChars (chars : List Char) :
    words (singleLineChars chars) = words chars :=
  fields_join isBlankChar_space fun _ member => mem_fields member

@[simp]
theorem singleLineChars_singleLineChars (chars : List Char) :
    singleLineChars (singleLineChars chars) = singleLineChars chars := by
  rw [singleLineChars, words_singleLineChars, ← singleLineChars]

theorem words_eq_nil_iff {chars : List Char} : words chars = [] ↔ isBlank chars = true :=
  fields_eq_nil_iff.trans List.all_eq_true.symm

/-- The words decide whether a text is blank. -/
@[simp]
theorem isBlank_singleLineChars (chars : List Char) :
    isBlank (singleLineChars chars) = isBlank chars := by
  rw [Bool.eq_iff_iff, ← words_eq_nil_iff, ← words_eq_nil_iff, words_singleLineChars]

theorem singleLineChars_eq_nil_iff {chars : List Char} :
    singleLineChars chars = [] ↔ isBlank chars = true := by
  constructor
  · intro empty
    rw [← isBlank_singleLineChars, empty]
    rfl
  · intro blank
    rw [singleLineChars, words_eq_nil_iff.mpr blank, join]

/-! ## Strings -/

@[simp]
theorem toList_singleLine (text : String) :
    (singleLine text).toList = singleLineChars text.toList :=
  String.toList_ofList

@[simp]
theorem singleLine_singleLine (text : String) : singleLine (singleLine text) = singleLine text := by
  rw [singleLine, toList_singleLine, singleLineChars_singleLineChars, ← singleLine]

theorem isEmpty_singleLine (text : String) :
    (singleLine text).isEmpty = isBlank text.toList := by
  rw [Bool.eq_iff_iff, String.isEmpty_iff, ← String.toList_inj, toList_singleLine,
    ← singleLineChars_eq_nil_iff]
  rfl

end PublicSite.Text
