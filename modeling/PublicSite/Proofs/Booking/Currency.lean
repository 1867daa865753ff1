import PublicSite.Booking.Currency
import PublicSite.Proofs.Booking.Price
import PublicSite.Proofs.Text.Digits
import PublicSite.Proofs.Text.Pieces

/-!
# Amounts of money and the texts of them

The commas stand so that each group behind the first has three digits, and without them the
digits are those of the amount.  So a text of dollars is read back as the amount that it
was written for, and two prices look the same only if they are rounded to the same amount.
-/

namespace PublicSite.Booking

open PublicSite.Text

/-! ## Groups -/

/-- Up to three digits in the first group and three in each other. -/
def AreThousands (groups : List (List Char)) : Prop :=
  ∃ first others, groups = first :: others ∧ 1 ≤ first.length ∧ first.length ≤ 3 ∧
    ∀ group ∈ others, group.length = 3

theorem AreThousands.concat {groups : List (List Char)} (areThousands : AreThousands groups)
    {last : List Char} (three : last.length = 3) : AreThousands (groups ++ [last]) := by
  obtain ⟨first, others, rfl, atLeast, atMost, allThree⟩ := areThousands
  refine ⟨first, others ++ [last], rfl, atLeast, atMost, ?_⟩
  intro group member
  rcases List.mem_append.mp member with earlier | isLast
  · exact allThree group earlier
  · rw [List.mem_singleton.mp isLast, three]

/-- The digits are given from the last one on, and a comma stands behind three of them
whenever others follow. -/
theorem areThousands_groupReversed {digits : List Char} (notEmpty : digits ≠ [])
    (noComma : ',' ∉ digits) :
    AreThousands (pieces (· == ',') (groupReversed digits).reverse) := by
  fun_induction groupReversed digits with
  | case1 a b c d rest ih =>
      simp only [List.mem_cons, not_or] at noComma
      obtain ⟨notA, notB, notC, others⟩ := noComma
      have last : ',' ∉ [c, b, a] := by simp [notA, notB, notC]
      have cut : (a :: b :: c :: ',' :: groupReversed (d :: rest)).reverse =
          (groupReversed (d :: rest)).reverse ++ ',' :: [c, b, a] := by simp
      rw [cut, pieces_append_separator (by decide),
        pieces_of_no_separator (beq_eq_false_of_not_mem last)]
      exact (ih (List.cons_ne_nil d rest) (by simpa using others)).concat rfl
  | case2 digits short =>
      have noneInside : ',' ∉ digits.reverse := by simpa using noComma
      rw [pieces_of_no_separator (beq_eq_false_of_not_mem noneInside)]
      refine ⟨_, [], rfl, ?_, ?_, nofun⟩
      · rw [List.length_reverse]
        exact List.length_pos_iff.mpr notEmpty
      · rw [List.length_reverse]
        match digits, short with
        | [], _ | [_], _ | [_, _], _ | [_, _, _], _ => simp
        | a :: b :: c :: d :: rest, short => exact absurd rfl (short a b c d rest)

theorem filter_groupReversed {digits : List Char} (noComma : ',' ∉ digits) :
    (groupReversed digits).filter (· != ',') = digits := by
  fun_induction groupReversed digits with
  | case1 a b c d rest ih =>
      simp only [List.mem_cons, not_or] at noComma
      obtain ⟨notA, notB, notC, others⟩ := noComma
      have kept := ih (by simpa using others)
      simp [Ne.symm notA, Ne.symm notB, Ne.symm notC, kept]
  | case2 digits short =>
      rw [List.filter_eq_self]
      rintro char member
      rw [bne_iff_ne]
      rintro rfl
      exact noComma member

/-- The digits of an amount with commas between them. -/
structure IsGrouped (units : Nat) (text : List Char) : Prop where
  digits_eq : text.filter (· != ',') = decimalDigits units
  noLeadingZero : 0 < units → (text.filter (· != ',')).head? ≠ some '0'
  areThousands : AreThousands (pieces (· == ',') text)

theorem isGrouped_groupThousands (units : Nat) :
    IsGrouped units (groupThousands (decimalDigits units)) := by
  have noComma : ',' ∉ (decimalDigits units).reverse := by
    rw [List.mem_reverse]
    exact not_mem_decimalDigits (by decide) units
  have notEmpty : (decimalDigits units).reverse ≠ [] :=
    List.reverse_ne_nil_iff.mpr (decimalDigits_ne_nil units)
  have digits : (groupThousands (decimalDigits units)).filter (· != ',') = decimalDigits units := by
    rw [groupThousands, List.filter_reverse, filter_groupReversed noComma, List.reverse_reverse]
  constructor
  case digits_eq => exact digits
  case noLeadingZero =>
    intro positive
    rw [digits]
    exact toDigits_head?_ne_zero (by decide) (by decide) positive
  case areThousands => exact areThousands_groupReversed notEmpty noComma

/-! ## Reading an amount back -/

/-- The dollars of a text that begins with the sign of the currency. -/
def readUnits? (text : List Char) : Option Nat :=
  (text.dropPrefix? currencySign).map fun digits => decimalValue (digits.filter (· != ','))

/-- The dollars of a text, which are negative behind a minus sign. -/
def readDollars? : List Char → Option Int
  | '-' :: rest => (readUnits? rest).map fun units : Nat => -(units : Int)
  | text => (readUnits? text).map fun units : Nat => (units : Int)

theorem readUnits?_append {units : Nat} {text : List Char} (isGrouped : IsGrouped units text) :
    readUnits? (currencySign ++ text) = some units := by
  have behind : (currencySign ++ text).dropPrefix? currencySign = some text :=
    List.dropPrefix?_append_of_beq text (beq_self_eq_true currencySign)
  rw [readUnits?, behind, Option.map_some, isGrouped.digits_eq, decimalValue_decimalDigits]

/-- A count of dollars is read back from its text. -/
theorem readDollars?_printDollars (dollars : Int) :
    readDollars? (printDollars dollars) = some dollars := by
  have read := readUnits?_append (isGrouped_groupThousands dollars.natAbs)
  rw [printDollars, List.append_assoc]
  split
  · rename_i negative
    rw [List.singleton_append, readDollars?, read, Option.map_some, Option.some_inj]
    omega
  · rename_i nonneg
    change (readUnits? (currencySign ++ groupThousands _)).map _ = _
    rw [read, Option.map_some, Option.some_inj]
    exact Int.natAbs_of_nonneg (not_lt.mp nonneg)

theorem printDollars_injective : Function.Injective printDollars := by
  intro dollars other same
  have read := readDollars?_printDollars dollars
  rw [same, readDollars?_printDollars other] at read
  exact (Option.some.inj read).symm

/-! ## The text of a price -/

theorem printDollars_eq (dollars : Int) :
    printDollars dollars = (if dollars < 0 then "-HK$" else "HK$").toList ++
      groupThousands (decimalDigits dollars.natAbs) := by
  rw [printDollars]
  split <;> rfl

theorem toList_formatPrice {price : Float} {value : Rat} {rounded : Int}
    (known : Price.ofFloat? price = some value) (isRounded : Price.IsRounded rounded value) :
    (formatPrice price).toList = printDollars rounded := by
  have nearest : Price.nearestOfFloat price = rounded := by
    rw [Price.nearestOfFloat_eq known]
    exact (Price.isRounded_nearestOfRat value).unique isRounded
  rw [formatPrice, String.toList_ofList]
  exact congrArg printDollars nearest

/-- Two prices look the same when they are rounded to the same amount. -/
theorem formatPrice_eq_iff {price other : Float} {value otherValue : Rat}
    {rounded otherRounded : Int} (known : Price.ofFloat? price = some value)
    (isRounded : Price.IsRounded rounded value)
    (otherKnown : Price.ofFloat? other = some otherValue)
    (otherIsRounded : Price.IsRounded otherRounded otherValue) :
    formatPrice price = formatPrice other ↔ rounded = otherRounded := by
  rw [← String.toList_inj, toList_formatPrice known isRounded,
    toList_formatPrice otherKnown otherIsRounded]
  exact printDollars_injective.eq_iff

/-- A finite price is written as the nearest whole amount: a minus sign when it is below
zero and does not come to nothing, the sign of the currency, and the digits in groups.  The
text is read back as that amount, and any price that comes to the same amount has the same
text. -/
theorem formatPrice_writes_rounded (price : Float) (finite : price.isFinite = true) :
    ∃ (value : Rat) (rounded : Int), Price.ofFloat? price = some value ∧
      Price.IsRounded rounded value ∧
      (∃ grouped, (formatPrice price).toList =
          (if price < 0 ∧ 0 < rounded.natAbs then "-HK$" else "HK$").toList ++ grouped ∧
        IsGrouped rounded.natAbs grouped) ∧
      readDollars? (formatPrice price).toList = some rounded ∧
      ∀ (other : Float) (otherValue : Rat) (otherRounded : Int),
        Price.ofFloat? other = some otherValue → Price.IsRounded otherRounded otherValue →
          (formatPrice price = formatPrice other ↔ rounded = otherRounded) := by
  obtain ⟨value, known⟩ : ∃ value : Rat, Price.ofFloat? price = some value :=
    Option.isSome_iff_exists.mp ((Price.isSome_ofFloat? price).trans finite)
  have isRounded := Price.isRounded_nearestOfRat value
  have text := toList_formatPrice known isRounded
  have negative : Price.nearestOfRat value < 0 ↔
      price < 0 ∧ 0 < (Price.nearestOfRat value).natAbs := by
    rw [isRounded.neg_iff, Price.lt_zero_iff known, Int.natAbs_pos]
  refine ⟨value, Price.nearestOfRat value, known, isRounded, ?written, ?read, ?same⟩
  case written =>
    refine ⟨groupThousands (decimalDigits (Price.nearestOfRat value).natAbs), ?_,
      isGrouped_groupThousands _⟩
    rw [text, printDollars_eq]
    simp only [negative]
  case read => rw [text, readDollars?_printDollars]
  case same =>
    exact fun other otherValue otherRounded otherKnown otherIsRounded =>
      formatPrice_eq_iff known isRounded otherKnown otherIsRounded

/-- A price below zero whose half dollar goes away from zero, and another that comes to the
same thousand. -/
theorem formatPrice_writes_rounded_half :
    let price : Float := -999.5
    let other : Float := -1000.25
    price.isFinite = true ∧ Price.ofFloat? other = some (-4001 / 4 : Rat) ∧
      Price.IsRounded (-1000) (-4001 / 4) ∧ formatPrice price = "-HK$1,000" ∧
      readDollars? (formatPrice price).toList = some (-1000) ∧
      formatPrice price = formatPrice other := by
  intro price other
  have finite : price.isFinite = true := by decide +kernel
  have text : formatPrice price = "-HK$1,000" := by decide +kernel
  have otherKnown : Price.ofFloat? other = some (-4001 / 4 : Rat) := by decide +kernel
  have otherIsRounded : Price.IsRounded (-1000) (-4001 / 4) := by
    constructor <;> norm_num [abs_of_neg]
  obtain ⟨_, rounded, _, _, _, read, same⟩ := formatPrice_writes_rounded price finite
  have amount : rounded = -1000 := by
    rw [text] at read
    exact (Option.some.inj read).symm
  rw [amount] at read same
  exact ⟨finite, otherKnown, otherIsRounded, text, read,
    (same other _ _ otherKnown otherIsRounded).mpr rfl⟩

end PublicSite.Booking
