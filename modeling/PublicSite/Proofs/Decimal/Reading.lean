import Mathlib.Data.List.Basic
import PublicSite.Decimal.Reading

/-!
# The form of decimal numbers

A decimal number is a sign, digits with perhaps a point among them, and an exponent, and
only the digits cannot be left out.  Exactly the texts of this form are read as a finite
number, unless it is too large: what else is read, the words for an infinity and for no
number, is never finite.
-/

namespace PublicSite.Decimal

open PublicSite.Text

/-! ## The form -/

/-- Nothing but decimal digits. -/
def IsDigits (chars : List Char) : Prop :=
  ∀ char ∈ chars, char.isDigit = true

/-- A sign, perhaps none, and whether it is a minus. -/
inductive IsSign : List Char → Bool → Prop where
  | absent : IsSign [] false
  | plus : IsSign ['+'] false
  | minus : IsSign ['-'] true

/-- A number behind a sign. -/
def signed {α : Type} [Neg α] (negative : Bool) (value : α) : α :=
  if negative then -value else value

/-- A point with the digits after it, perhaps no point. -/
inductive IsFraction : List Char → List Char → Prop where
  | absent : IsFraction [] []
  | written {digits : List Char} (isDigits : IsDigits digits) : IsFraction ('.' :: digits) digits

/-- An exponent, perhaps none, and the power of ten that it stands for. -/
inductive IsExponent : List Char → Int → Prop where
  | absent : IsExponent [] 0
  | written {mark : Char} {sign digits : List Char} {negative : Bool}
      (isMark : mark = 'e' ∨ mark = 'E') (isSign : IsSign sign negative)
      (isDigits : IsDigits digits) (notEmpty : digits ≠ []) :
      IsExponent (mark :: (sign ++ digits)) (signed negative (decimalValue digits : Int))

/-- A decimal number without a sign, and the double nearest to it. -/
inductive IsUnsigned : List Char → Float → Prop where
  | ofParts {whole point fraction exponent : List Char} {power : Int} (isDigits : IsDigits whole)
      (isFraction : IsFraction point fraction) (notEmpty : whole ++ fraction ≠ [])
      (isExponent : IsExponent exponent power) :
      IsUnsigned (whole ++ (point ++ exponent))
        (nearestDouble (whole ++ fraction) (power - fraction.length))

/-- A decimal number, and the double nearest to it. -/
inductive IsDecimal : List Char → Float → Prop where
  | ofSign {sign body : List Char} {negative : Bool} {magnitude : Float}
      (isSign : IsSign sign negative) (isUnsigned : IsUnsigned body magnitude) :
      IsDecimal (sign ++ body) (signed negative magnitude)

/-! ## Signs -/

/-- A digit or a point is no sign. -/
theorem not_sign_of_isDigit_or_point {char : Char} (found : char.isDigit = true ∨ char = '.') :
    char ≠ '-' ∧ char ≠ '+' := by
  rcases found with digit | rfl
  · constructor <;> rintro rfl <;> exact absurd digit (by decide)
  · decide

/-- What is cut off as a sign is one. -/
theorem exists_isSign (chars : List Char) :
    ∃ sign, IsSign sign (splitSign chars).1 ∧ chars = sign ++ (splitSign chars).2 := by
  unfold splitSign
  split
  · exact ⟨_, .minus, rfl⟩
  · exact ⟨_, .plus, rfl⟩
  · exact ⟨_, .absent, rfl⟩

/-- A sign is cut off from what does not open with another one. -/
theorem splitSign_append {sign body : List Char} {negative : Bool} (isSign : IsSign sign negative)
    (unsigned : ∀ first ∈ body.head?, first ≠ '-' ∧ first ≠ '+') :
    splitSign (sign ++ body) = (negative, body) := by
  cases isSign with
  | plus => rfl
  | minus => rfl
  | absent =>
      cases body with
      | nil => rfl
      | cons first rest =>
          obtain ⟨notMinus, notPlus⟩ := unsigned first rfl
          rw [List.nil_append, splitSign.eq_3]
          · rintro _ same
            exact notMinus (List.cons.inj same).1
          · rintro _ same
            exact notPlus (List.cons.inj same).1

theorem splitSign_append_digits {sign digits : List Char} {negative : Bool}
    (isSign : IsSign sign negative) (isDigits : IsDigits digits) :
    splitSign (sign ++ digits) = (negative, digits) := by
  refine splitSign_append isSign fun first head => ?_
  exact not_sign_of_isDigit_or_point (.inl (isDigits first (List.mem_of_mem_head? head)))

/-! ## Exponents -/

theorem readExponent?_eq_some_iff {chars : List Char} {power : Int} :
    readExponent? chars = some power ↔
      ∃ sign negative digits, IsSign sign negative ∧ IsDigits digits ∧ digits ≠ [] ∧
        chars = sign ++ digits ∧ power = signed negative (decimalValue digits : Int) := by
  constructor
  · intro read
    obtain ⟨sign, isSign, cut⟩ := exists_isSign chars
    simp only [readExponent?] at read
    split at read
    · exact nomatch read
    · rename_i accepted
      rw [Bool.or_eq_true, not_or, Bool.not_eq_true, List.isEmpty_eq_false_iff, Bool.not_eq_true',
        Bool.not_eq_false] at accepted
      exact ⟨sign, _, _, isSign, List.all_eq_true.mp accepted.2, accepted.1, cut,
        (Option.some.inj read).symm⟩
  · rintro ⟨sign, negative, digits, isSign, isDigits, notEmpty, rfl, rfl⟩
    simp only [readExponent?, splitSign_append_digits isSign isDigits]
    rw [if_neg]
    · rfl
    · rw [List.all_eq_true.mpr isDigits, List.isEmpty_eq_false_iff.mpr notEmpty]
      decide

/-- The power of ten of what stands behind the digits. -/
def readPower? : List Char → Option Int
  | [] => some 0
  | mark :: exponent => if mark == 'e' || mark == 'E' then readExponent? exponent else none

theorem readPower?_eq_some_iff {chars : List Char} {power : Int} :
    readPower? chars = some power ↔ IsExponent chars power := by
  constructor
  · intro read
    cases chars with
    | nil =>
        obtain rfl := Option.some.inj read
        exact .absent
    | cons mark exponent =>
        rw [readPower?] at read
        split at read
        · rename_i marked
          rw [Bool.or_eq_true, beq_iff_eq, beq_iff_eq] at marked
          obtain ⟨sign, negative, digits, isSign, isDigits, notEmpty, rfl, rfl⟩ :=
            readExponent?_eq_some_iff.mp read
          exact .written marked isSign isDigits notEmpty
        · exact nomatch read
  · intro isExponent
    cases isExponent with
    | absent => rfl
    | written isMark isSign isDigits notEmpty =>
        rw [readPower?, if_pos (by simpa using isMark)]
        exact readExponent?_eq_some_iff.mpr ⟨_, _, _, isSign, isDigits, notEmpty, rfl, rfl⟩

/-! ## Digits and the point -/

/-- The digits end here: no other digit follows, nor a point unless there was one. -/
def EndsDigits (point rest : List Char) : Prop :=
  ∀ first ∈ rest.head?, first.isDigit = false ∧ (point = [] → first ≠ '.')

theorem IsExponent.endsDigits {exponent : List Char} {power : Int}
    (isExponent : IsExponent exponent power) (point : List Char) : EndsDigits point exponent := by
  rintro first head
  cases isExponent with
  | absent => exact nomatch head
  | written isMark =>
      obtain rfl := Option.some.inj head
      rcases isMark with rfl | rfl
      · exact ⟨by decide, fun _ => by decide⟩
      · exact ⟨by decide, fun _ => by decide⟩

theorem isDigits_takeWhile (chars : List Char) : IsDigits (chars.takeWhile Char.isDigit) :=
  fun _ member => List.all_eq_true.mp List.all_takeWhile _ member

theorem isDigit_eq_false_of_head?_dropWhile {chars : List Char} {first : Char}
    (head : first ∈ (chars.dropWhile Char.isDigit).head?) : first.isDigit = false := by
  have found := List.head?_dropWhile_not Char.isDigit chars
  rwa [Option.mem_def.mp head] at found

theorem takeWhile_append_of_head? {digits rest : List Char} (isDigits : IsDigits digits)
    (ends : ∀ first ∈ rest.head?, first.isDigit = false) :
    (digits ++ rest).takeWhile Char.isDigit = digits := by
  rw [List.takeWhile_append_of_pos isDigits]
  cases rest with
  | nil => simp
  | cons first rest => simp [ends first rfl]

theorem dropWhile_append_of_head? {digits rest : List Char} (isDigits : IsDigits digits)
    (ends : ∀ first ∈ rest.head?, first.isDigit = false) :
    (digits ++ rest).dropWhile Char.isDigit = rest := by
  rw [List.dropWhile_append_of_pos isDigits]
  cases rest with
  | nil => rfl
  | cons first rest => simp [ends first rfl]

/-- Every text is cut into digits, a point with the digits after it, and a rest. -/
theorem exists_cut (chars : List Char) :
    ∃ whole point fraction rest, IsDigits whole ∧ IsFraction point fraction ∧
      EndsDigits point rest ∧ chars = whole ++ (point ++ rest) := by
  have cut : chars.takeWhile Char.isDigit ++ chars.dropWhile Char.isDigit = chars :=
    List.takeWhile_append_dropWhile
  cases found : chars.dropWhile Char.isDigit with
  | nil =>
      rw [found] at cut
      exact ⟨_, [], [], [], isDigits_takeWhile chars, .absent, nofun, cut.symm⟩
  | cons mark rest =>
      have notDigit : mark.isDigit = false := by
        refine isDigit_eq_false_of_head?_dropWhile (?_ : mark ∈ (chars.dropWhile _).head?)
        rw [found]
        rfl
      rw [found] at cut
      by_cases isPoint : mark = '.'
      · subst isPoint
        refine ⟨_, _, _, rest.dropWhile Char.isDigit, isDigits_takeWhile chars,
          .written (isDigits_takeWhile rest), fun first head => ⟨?_, nofun⟩, ?_⟩
        · exact isDigit_eq_false_of_head?_dropWhile head
        · rw [List.cons_append, List.takeWhile_append_dropWhile, cut]
      · refine ⟨_, [], [], mark :: rest, isDigits_takeWhile chars, .absent, ?_, cut.symm⟩
        rintro first head
        obtain rfl := Option.some.inj head
        exact ⟨notDigit, fun _ => isPoint⟩

/-- The digits after a point, perhaps none, and what stands behind them. -/
def cutFraction : List Char → List Char × List Char
  | '.' :: rest => (rest.takeWhile Char.isDigit, rest.dropWhile Char.isDigit)
  | chars => ([], chars)

theorem cutFraction_append {point fraction rest : List Char}
    (isFraction : IsFraction point fraction) (ends : EndsDigits point rest) :
    cutFraction (point ++ rest) = (fraction, rest) := by
  cases isFraction with
  | written isDigits =>
      have endsFraction : ∀ first ∈ rest.head?, first.isDigit = false :=
        fun first head => (ends first head).1
      rw [List.cons_append, cutFraction, takeWhile_append_of_head? isDigits endsFraction,
        dropWhile_append_of_head? isDigits endsFraction]
  | absent =>
      cases rest with
      | nil => rfl
      | cons first rest =>
          rw [List.nil_append, cutFraction.eq_2]
          rintro _ same
          exact (ends first rfl).2 rfl (List.cons.inj same).1

/-- A number is read by its digits before and after the point and by what stands behind
them. -/
theorem readUnsigned?_eq (chars : List Char) :
    readUnsigned? chars =
      let whole := chars.takeWhile Char.isDigit
      let (fraction, rest) := cutFraction (chars.dropWhile Char.isDigit)
      if whole.isEmpty && fraction.isEmpty then none
      else (readPower? rest).map fun power =>
        nearestDouble (whole ++ fraction) (power - fraction.length) := by
  have readRest : ∀ (digits rest : List Char) (places : Nat), (match rest with
      | [] => some (nearestDouble digits (-(places : Int)))
      | mark :: exponent =>
          if mark == 'e' || mark == 'E' then
            (readExponent? exponent).map fun power => nearestDouble digits (-(places : Int) + power)
          else none) =
      (readPower? rest).map fun power => nearestDouble digits (power - places) := by
    intro digits rest places
    cases rest with
    | nil => simp [readPower?]
    | cons mark exponent =>
        simp only [readPower?, Int.sub_eq_add_neg, Int.add_comm]
        split <;> rfl
  -- The two matches on the same text are brought together before they are split.
  unfold readUnsigned?
  generalize chars.dropWhile Char.isDigit = behind
  dsimp only
  split
  · exact if_congr Iff.rfl rfl (readRest _ _ _)
  · rename_i noPoint
    rw [cutFraction.eq_2 _ noPoint]
    exact if_congr Iff.rfl rfl (readRest _ _ _)

/-- A text that is cut into its parts is read by them. -/
theorem readUnsigned?_append {whole point fraction rest : List Char} (isDigits : IsDigits whole)
    (isFraction : IsFraction point fraction) (ends : EndsDigits point rest) :
    readUnsigned? (whole ++ (point ++ rest)) =
      if whole ++ fraction = [] then none
      else (readPower? rest).map fun power =>
        nearestDouble (whole ++ fraction) (power - fraction.length) := by
  have endsWhole : ∀ first ∈ (point ++ rest).head?, first.isDigit = false := by
    intro first head
    cases isFraction with
    | absent => exact (ends first head).1
    | written =>
        obtain rfl := Option.some.inj head
        decide
  simp only [readUnsigned?_eq, takeWhile_append_of_head? isDigits endsWhole,
    dropWhile_append_of_head? isDigits endsWhole, cutFraction_append isFraction ends,
    Bool.and_eq_true, List.isEmpty_iff, List.append_eq_nil_iff]

theorem readUnsigned?_eq_some_iff {chars : List Char} {value : Float} :
    readUnsigned? chars = some value ↔ IsUnsigned chars value := by
  constructor
  · intro read
    obtain ⟨whole, point, fraction, rest, isDigits, isFraction, ends, rfl⟩ := exists_cut chars
    rw [readUnsigned?_append isDigits isFraction ends] at read
    split at read
    · exact nomatch read
    · rename_i notEmpty
      obtain ⟨power, readPower, rfl⟩ := Option.map_eq_some_iff.mp read
      exact .ofParts isDigits isFraction notEmpty (readPower?_eq_some_iff.mp readPower)
  · intro isUnsigned
    cases isUnsigned with
    | ofParts isDigits isFraction notEmpty isExponent =>
        rw [readUnsigned?_append isDigits isFraction (isExponent.endsDigits _), if_neg notEmpty,
          readPower?_eq_some_iff.mpr isExponent]
        rfl

/-! ## Decimal numbers -/

/-- A number without a sign opens with a digit or a point. -/
theorem IsUnsigned.exists_cons {chars : List Char} {value : Float}
    (isUnsigned : IsUnsigned chars value) :
    ∃ first rest, chars = first :: rest ∧ (first.isDigit = true ∨ first = '.') := by
  cases isUnsigned with
  | @ofParts whole _ _ _ _ isDigits isFraction notEmpty isExponent =>
      cases whole with
      | cons first rest => exact ⟨first, _, rfl, .inl (isDigits first List.mem_cons_self)⟩
      | nil =>
          cases isFraction with
          | absent => exact absurd rfl notEmpty
          | written => exact ⟨'.', _, rfl, .inr rfl⟩

theorem IsUnsigned.head?_not_sign {chars : List Char} {value : Float}
    (isUnsigned : IsUnsigned chars value) : ∀ first ∈ chars.head?, first ≠ '-' ∧ first ≠ '+' := by
  intro first head
  obtain ⟨_, rest, rfl, found⟩ := isUnsigned.exists_cons
  obtain rfl := Option.some.inj head
  exact not_sign_of_isDigit_or_point found

/-- A digit or a point has no other small form. -/
theorem toLower_of_isDigit_or_point {char : Char} (found : char.isDigit = true ∨ char = '.') :
    char.toLower = char := by
  rcases found with digit | rfl
  · refine dif_neg fun capital => ?_
    simp only [Char.isDigit, Bool.and_eq_true, decide_eq_true_eq, ge_iff_le,
      UInt32.le_iff_toNat_le] at digit capital
    exact absurd (Nat.le_trans capital.1 digit.2) (by decide)
  · rfl

/-- A word is no number. -/
theorem IsUnsigned.asciiLower_ne {chars : List Char} {value : Float}
    (isUnsigned : IsUnsigned chars value) (word : String)
    (opens : ∃ first ∈ word.toList.head?, ¬(first.isDigit = true ∨ first = '.')) :
    String.ofList (asciiLower chars) ≠ word := by
  rintro rfl
  obtain ⟨first, rest, rfl, found⟩ := isUnsigned.exists_cons
  obtain ⟨_, head, isOther⟩ := opens
  rw [String.toList_ofList] at head
  obtain rfl := Option.some.inj head
  rw [toLower_of_isDigit_or_point found] at isOther
  exact isOther found

/-- An infinity is no finite number, whatever its sign; neither is what is no number. -/
theorem isFinite_signed_of_word (negative : Bool) :
    (signed negative (1.0 / 0.0 : Float)).isFinite = false ∧
      (signed negative (0.0 / 0.0 : Float)).isFinite = false := by
  cases negative
  · decide
  · decide

/-- Exactly the decimal numbers are read as finite doubles. -/
theorem readDouble?_eq_some_iff {chars : List Char} {value : Float}
    (finite : value.isFinite = true) : readDouble? chars = some value ↔ IsDecimal chars value := by
  constructor
  · intro read
    obtain ⟨sign, isSign, cut⟩ := exists_isSign chars
    simp only [readDouble?] at read
    generalize splitSign chars = parts at isSign cut read
    obtain ⟨infinite, noNumber⟩ := isFinite_signed_of_word parts.1
    subst cut
    obtain ⟨magnitude, readMagnitude, rfl⟩ := Option.map_eq_some_iff.mp read
    -- The words are read as well, but not as finite numbers.
    split at readMagnitude
    · obtain rfl := Option.some.inj readMagnitude
      exact absurd finite (Bool.eq_false_iff.mp infinite)
    · split at readMagnitude
      · obtain rfl := Option.some.inj readMagnitude
        exact absurd finite (Bool.eq_false_iff.mp noNumber)
      · exact .ofSign isSign (readUnsigned?_eq_some_iff.mp readMagnitude)
  · intro isDecimal
    cases isDecimal with
    | ofSign isSign isUnsigned =>
        simp only [readDouble?, splitSign_append isSign isUnsigned.head?_not_sign]
        rw [if_neg, if_neg, readUnsigned?_eq_some_iff.mpr isUnsigned]
        · rfl
        · simpa using isUnsigned.asciiLower_ne "nan" ⟨'n', rfl, by decide⟩
        · simpa using And.intro (isUnsigned.asciiLower_ne "inf" ⟨'i', rfl, by decide⟩)
            (isUnsigned.asciiLower_ne "infinity" ⟨'i', rfl, by decide⟩)

end PublicSite.Decimal
