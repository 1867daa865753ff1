import Mathlib.Tactic.SplitIfs
import PublicSite.Config.Layers

/-!
# Values of variables

The text of a variable is a word for a truth value; else a numeral, if its number fits
64 bits with a sign; else a double, if it can be read as one; else it stays a text.  It
stands for one value, which is the one that it is given.
-/

namespace PublicSite.Config

open PublicSite.Json PublicSite.Text PublicSite.Decimal

/-- A word for a truth value, in letters of either case. -/
def IsTruth (text : String) (value : Bool) : Prop :=
  asciiLower text.toList = (toString value).toList

/-- One digit or more. -/
def AreDigits (chars : List Char) : Prop :=
  chars ≠ [] ∧ ∀ char ∈ chars, char.isDigit = true

/-- A numeral and its number: digits, behind a sign or none. -/
inductive IsNumeral : List Char → Int → Prop where
  | plain {digits : List Char} (areDigits : AreDigits digits) :
      IsNumeral digits (decimalValue digits)
  | plus {digits : List Char} (areDigits : AreDigits digits) :
      IsNumeral ('+' :: digits) (decimalValue digits)
  | minus {digits : List Char} (areDigits : AreDigits digits) :
      IsNumeral ('-' :: digits) (-decimalValue digits)

/-- A numeral whose number fits 64 bits with a sign. -/
def IsWord (text : String) (value : Int) : Prop :=
  IsNumeral text.toList value ∧ -0x8000000000000000 ≤ value ∧ value < 0x8000000000000000

/-- A text stands for a value, the first of these that it can be read as. -/
inductive StandsFor (text : String) : Value → Prop where
  | truth {value : Bool} (isTruth : IsTruth text value) : StandsFor text (.bool value)
  | word {value : Int} (noTruth : ∀ truth, ¬ IsTruth text truth) (isWord : IsWord text value) :
      StandsFor text (.integer value)
  | double {value : Float} (noTruth : ∀ truth, ¬ IsTruth text truth)
      (noWord : ∀ word, ¬ IsWord text word) (isDouble : readDouble? text.toList = some value) :
      StandsFor text (.float value)
  | text (noTruth : ∀ truth, ¬ IsTruth text truth) (noWord : ∀ word, ¬ IsWord text word)
      (noDouble : readDouble? text.toList = none) : StandsFor text (.text text)

/-! ## Numerals -/

theorem splitSign_of_areDigits {digits : List Char} (areDigits : AreDigits digits) :
    splitSign digits = (false, digits) := by
  fun_cases splitSign digits with
  | case1 rest => exact absurd (areDigits.2 '-' List.mem_cons_self) (by decide)
  | case2 rest => exact absurd (areDigits.2 '+' List.mem_cons_self) (by decide)
  | case3 => rfl

/-- A text begins with a sign or has none. -/
theorem splitSign_cases (chars : List Char) :
    splitSign chars = (false, chars) ∨ (∃ rest, chars = '+' :: rest) ∨
      ∃ rest, chars = '-' :: rest := by
  fun_cases splitSign chars with
  | case1 rest => exact Or.inr (Or.inr ⟨rest, rfl⟩)
  | case2 rest => exact Or.inr (Or.inl ⟨rest, rfl⟩)
  | case3 => exact Or.inl rfl

/-- The number of a text that is digits behind a sign or none. -/
def numberOf (chars : List Char) : Int :=
  if (splitSign chars).1 then -decimalValue (splitSign chars).2
  else decimalValue (splitSign chars).2

theorem isNumeral_iff {chars : List Char} {value : Int} :
    IsNumeral chars value ↔ AreDigits (splitSign chars).2 ∧ numberOf chars = value := by
  constructor
  · rintro (areDigits | areDigits | areDigits)
    · simpa [numberOf, splitSign_of_areDigits areDigits] using areDigits
    · exact ⟨areDigits, rfl⟩
    · exact ⟨areDigits, rfl⟩
  · rintro ⟨areDigits, rfl⟩
    rcases splitSign_cases chars with noSign | ⟨rest, rfl⟩ | ⟨rest, rfl⟩
    · rw [numberOf, noSign]
      rw [noSign] at areDigits
      exact .plain areDigits
    · exact .plus areDigits
    · exact .minus areDigits

theorem areDigits_iff {chars : List Char} :
    AreDigits chars ↔ (chars.isEmpty || !chars.all Char.isDigit) = false := by
  simp [AreDigits]

theorem readWord?_eq_some_iff {text : String} {value : Int} :
    readWord? text.toList = some value ↔ IsWord text value := by
  have readNumber : readWord? text.toList =
      if (splitSign text.toList).2.isEmpty || !(splitSign text.toList).2.all Char.isDigit then
        none
      else if -0x8000000000000000 ≤ numberOf text.toList ∧
          numberOf text.toList < 0x8000000000000000 then
        some (numberOf text.toList)
      else none := rfl
  rw [IsWord, isNumeral_iff, areDigits_iff, readNumber]
  split_ifs with noDigits fits
  · simp [noDigits]
  · simp only [Bool.not_eq_true] at noDigits
    constructor
    · intro same
      obtain rfl := Option.some.inj same
      exact ⟨⟨noDigits, rfl⟩, fits⟩
    · rintro ⟨⟨-, rfl⟩, -⟩
      rfl
  · refine iff_of_false nofun ?_
    rintro ⟨⟨-, rfl⟩, bounds⟩
    exact fits bounds

/-! ## Values -/

/-- No text is a word for both truth values. -/
theorem IsTruth.unique {text : String} {first second : Bool} (isFirst : IsTruth text first)
    (isSecond : IsTruth text second) : first = second := by
  have same := isFirst.symm.trans isSecond
  revert same
  cases first <;> cases second <;> decide

theorem sameIgnoringCase_iff {text : String} (value : Bool) :
    sameIgnoringCase text.toList (toString value).toList = true ↔ IsTruth text value := by
  cases value <;> exact beq_iff_eq

theorem IsWord.unique {text : String} {first second : Int} (isFirst : IsWord text first)
    (isSecond : IsWord text second) : first = second :=
  Option.some.inj ((readWord?_eq_some_iff.mpr isFirst).symm.trans
    (readWord?_eq_some_iff.mpr isSecond))

/-- No text stands for two values. -/
theorem StandsFor.unique {text : String} {first second : Value} (isFirst : StandsFor text first)
    (isSecond : StandsFor text second) : first = second := by
  cases isFirst with
  | truth isTruth =>
      cases isSecond with
      | truth other => rw [isTruth.unique other]
      | word noTruth | double noTruth | text noTruth => exact absurd isTruth (noTruth _)
  | word noTruth isWord =>
      cases isSecond with
      | truth isTruth => exact absurd isTruth (noTruth _)
      | word _ other => rw [isWord.unique other]
      | double _ noWord | text _ noWord => exact absurd isWord (noWord _)
  | double noTruth noWord isDouble =>
      cases isSecond with
      | truth isTruth => exact absurd isTruth (noTruth _)
      | word _ isWord => exact absurd isWord (noWord _)
      | double _ _ other => rw [Option.some.inj (isDouble.symm.trans other)]
      | text _ _ noDouble => exact nomatch isDouble.symm.trans noDouble
  | text noTruth noWord noDouble =>
      cases isSecond with
      | truth isTruth => exact absurd isTruth (noTruth _)
      | word _ isWord => exact absurd isWord (noWord _)
      | double _ _ isDouble => exact nomatch isDouble.symm.trans noDouble
      | text => rfl

theorem standsFor_variableValue (text : String) : StandsFor text (variableValue text) := by
  simp only [variableValue]
  split_ifs with isTrue isFalse
  · exact .truth ((sameIgnoringCase_iff true).mp isTrue)
  · exact .truth ((sameIgnoringCase_iff false).mp isFalse)
  · have noTruth : ∀ truth, ¬ IsTruth text truth := by
      rintro (_ | _) isTruth
      · exact isFalse ((sameIgnoringCase_iff false).mpr isTruth)
      · exact isTrue ((sameIgnoringCase_iff true).mpr isTruth)
    cases isWord : readWord? text.toList with
    | some word => exact .word noTruth (readWord?_eq_some_iff.mp isWord)
    | none =>
        have noWord : ∀ word, ¬ IsWord text word := by
          intro word isThere
          exact nomatch isWord.symm.trans (readWord?_eq_some_iff.mpr isThere)
        cases isDouble : readDouble? text.toList with
        | some double => exact .double noTruth noWord isDouble
        | none => exact .text noTruth noWord isDouble

/-- A text stands for the value that it is given and for no other one. -/
theorem standsFor_iff {text : String} {value : Value} :
    StandsFor text value ↔ variableValue text = value := by
  constructor
  · exact (standsFor_variableValue text).unique
  · rintro rfl
    exact standsFor_variableValue text

end PublicSite.Config
