import Mathlib.Algebra.Order.Floor.Ring
import Mathlib.Data.Rat.Floor
import Mathlib.Tactic.Linarith
import PublicSite.Booking.Price
import PublicSite.Proofs.Decimal.Binary64

/-!
# Laws of prices

Doubles and exact numbers are both prices, and a price less itself is nothing in
either.  Of exact numbers the nearest whole one is known by its bounds: a number
from zero on is rounded up to a whole number exactly when it is at most half a
unit below it.  A double is rounded as the exact number that it stands for.
-/

namespace PublicSite.Booking.Price

/-- A price less itself is nothing. -/
class Cancels (α : Type) [Price α] [Zero α] : Prop where
  less_self : ∀ price : α, isAmount price = true → less price price = 0

/-! ## Doubles -/

open Float.Model in
theorem sub_self_unpacked {number : UnpackedFloat} (finite : number.isFinite = true) :
    UnpackedFloat.sub Format.binary64 number number = .zero .positive := by
  cases number with
  | infinity sign => exact nomatch finite
  | notANumber => exact nomatch finite
  | zero sign => cases sign <;> rfl
  | finite sign mantissa exponent positive =>
      change UnpackedFloat.normalize Format.binary64 (sign.apply _ - sign.apply _) _ .positive = _
      rw [sub_self]
      rfl

theorem sub_self_float {price : Float} (finite : price.isFinite = true) : price - price = 0 := by
  have unpacked : price.toModel.unpack.isFinite = true := finite
  exact congrArg (fun number => Float.ofModel (Float.Model.pack number))
    (sub_self_unpacked unpacked)

instance : Cancels Float where
  less_self _ accepted := sub_self_float (Bool.and_eq_true_iff.mp accepted).1

/-! ## Exact numbers -/

instance : Cancels Rat where
  less_self price _ := sub_self price

theorem atLeastZero_rat (value : Rat) : atLeastZero value = max value 0 := by
  change (if value < 0 then 0 else value) = _
  split
  · rename_i negative
    rw [max_eq_right negative.le]
  · rename_i nonneg
    rw [max_eq_left (not_lt.mp nonneg)]

theorem isAmount_rat {value : Rat} : isAmount value = true ↔ 0 ≤ value :=
  decide_eq_true_iff

/-! ## The nearest integer -/

theorem nearestOfRat_of_nonneg {value : Rat} (nonneg : 0 ≤ value) :
    nearestOfRat value = ⌊value + 1 / 2⌋ := by
  rw [nearestOfRat, if_pos nonneg]
  rfl

theorem nearestOfRat_of_neg {value : Rat} (negative : value < 0) :
    nearestOfRat value = -⌊-value + 1 / 2⌋ := by
  rw [nearestOfRat, if_neg (not_le.mpr negative)]
  rfl

theorem nearestOfRat_nonneg {value : Rat} (nonneg : 0 ≤ value) : 0 ≤ nearestOfRat value := by
  rw [nearestOfRat_of_nonneg nonneg]
  exact Int.floor_nonneg.mpr (by linarith)

theorem nearestOfRat_nonpos {value : Rat} (negative : value < 0) : nearestOfRat value ≤ 0 := by
  have mirrored : 0 ≤ ⌊-value + 1 / 2⌋ := Int.floor_nonneg.mpr (by linarith)
  rw [nearestOfRat_of_neg negative]
  exact neg_nonpos.mpr mirrored

@[simp]
theorem nearestOfRat_zero : nearestOfRat 0 = 0 := by
  rw [nearestOfRat_of_nonneg le_rfl]
  norm_num

/-- A number and its opposite are rounded alike. -/
theorem nearestOfRat_neg (value : Rat) : nearestOfRat (-value) = -nearestOfRat value := by
  rcases lt_trichotomy value 0 with negative | rfl | positive
  · rw [nearestOfRat_of_neg negative, nearestOfRat_of_nonneg (neg_nonneg.mpr negative.le), neg_neg]
  · simp
  · rw [nearestOfRat_of_neg (neg_lt_zero.mpr positive), nearestOfRat_of_nonneg positive.le, neg_neg]

theorem nearestOfRat_le_nearestOfRat {lower upper : Rat} (ordered : lower ≤ upper) :
    nearestOfRat lower ≤ nearestOfRat upper := by
  rcases le_or_gt 0 lower with nonneg | negative
  · rw [nearestOfRat_of_nonneg nonneg, nearestOfRat_of_nonneg (nonneg.trans ordered)]
    exact Int.floor_mono (by linarith)
  · rcases le_or_gt 0 upper with upperNonneg | upperNegative
    · exact (nearestOfRat_nonpos negative).trans (nearestOfRat_nonneg upperNonneg)
    · rw [nearestOfRat_of_neg negative, nearestOfRat_of_neg upperNegative]
      exact neg_le_neg (Int.floor_mono (by linarith))

/-- Rounding stays at or below a whole number up to half a unit above it. -/
theorem nearestOfRat_le_iff {value : Rat} (nonneg : 0 ≤ value) (whole : Int) :
    nearestOfRat value ≤ whole ↔ value < whole + 1 / 2 := by
  rw [nearestOfRat_of_nonneg nonneg, ← Int.lt_add_one_iff, Int.floor_lt, Int.cast_add,
    Int.cast_one]
  constructor
  · intro below
    linarith
  · intro below
    linarith

/-- The integer nearest to a number; halves go away from zero. -/
structure IsRounded (rounded : Int) (value : Rat) : Prop where
  near : |value| < rounded.natAbs + 1 / 2
  halfAway : rounded.natAbs ≤ |value| + 1 / 2
  sameSide : 0 ≤ rounded * value

theorem IsRounded.neg {rounded : Int} {value : Rat} (isRounded : IsRounded rounded value) :
    IsRounded (-rounded) (-value) where
  near := by
    rw [abs_neg, Int.natAbs_neg]
    exact isRounded.near
  halfAway := by
    rw [abs_neg, Int.natAbs_neg]
    exact isRounded.halfAway
  sameSide := by
    rw [Int.cast_neg, neg_mul_neg]
    exact isRounded.sameSide

theorem isRounded_nearestOfRat_of_nonneg {value : Rat} (nonneg : 0 ≤ value) :
    IsRounded (nearestOfRat value) value := by
  obtain ⟨units, whole⟩ := Int.eq_ofNat_of_zero_le (nearestOfRat_nonneg nonneg)
  have floor : ⌊value + 1 / 2⌋ = (units : Int) := by
    rw [← nearestOfRat_of_nonneg nonneg]
    exact whole
  obtain ⟨below, above⟩ := Int.floor_eq_iff.mp floor
  rw [Int.cast_natCast] at below above
  rw [whole]
  constructor
  case near =>
    rw [abs_of_nonneg nonneg, Int.natAbs_natCast]
    linarith
  case halfAway =>
    rw [abs_of_nonneg nonneg, Int.natAbs_natCast]
    exact below
  case sameSide => exact mul_nonneg (by positivity) nonneg

theorem isRounded_nearestOfRat (value : Rat) : IsRounded (nearestOfRat value) value := by
  rcases le_total 0 value with nonneg | nonpos
  · exact isRounded_nearestOfRat_of_nonneg nonneg
  · have mirrored := (isRounded_nearestOfRat_of_nonneg (neg_nonneg.mpr nonpos)).neg
    rwa [nearestOfRat_neg, neg_neg, neg_neg] at mirrored

/-- Only zero is nearest to zero. -/
theorem IsRounded.eq_zero {rounded : Int} (isRounded : IsRounded rounded 0) : rounded = 0 := by
  have small : (rounded.natAbs : Rat) < 1 := by
    have halfAway := isRounded.halfAway
    rw [abs_zero] at halfAway
    linarith
  exact Int.natAbs_eq_zero.mp (Nat.lt_one_iff.mp (by exact_mod_cast small))

/-- What is not nearest to zero is on the side of the number. -/
theorem IsRounded.neg_iff {rounded : Int} {value : Rat} (isRounded : IsRounded rounded value) :
    rounded < 0 ↔ value < 0 ∧ rounded ≠ 0 := by
  have sameSide := isRounded.sameSide
  constructor
  · intro negative
    refine ⟨lt_of_le_of_ne ?_ ?_, negative.ne⟩
    · exact nonpos_of_mul_nonneg_right sameSide (by exact_mod_cast negative)
    · rintro rfl
      exact negative.ne isRounded.eq_zero
  · rintro ⟨negative, notZero⟩
    have nonpos : (rounded : Rat) ≤ 0 := nonpos_of_mul_nonneg_left sameSide negative
    exact lt_of_le_of_ne (by exact_mod_cast nonpos) notZero

/-- No number has two nearest integers. -/
theorem IsRounded.unique {rounded other : Int} {value : Rat} (isRounded : IsRounded rounded value)
    (otherIsRounded : IsRounded other value) : rounded = other := by
  have atMost {left right : Int} (isLeft : IsRounded left value) (isRight : IsRounded right value) :
      left.natAbs ≤ right.natAbs := by
    have below : (left.natAbs : Rat) < right.natAbs + 1 := by
      linarith [isLeft.halfAway, isRight.near]
    exact Nat.lt_succ_iff.mp (by exact_mod_cast below)
  have sameUnits : rounded.natAbs = other.natAbs :=
    le_antisymm (atMost isRounded otherIsRounded) (atMost otherIsRounded isRounded)
  have sameSign : rounded < 0 ↔ other < 0 := by
    rw [isRounded.neg_iff, otherIsRounded.neg_iff, ← Int.natAbs_ne_zero, sameUnits,
      Int.natAbs_ne_zero]
  omega

/-! ## Doubles as exact numbers -/

theorem isSome_ofFloat? (price : Float) : (ofFloat? price : Option Rat).isSome = price.isFinite :=
  Option.isSome_map.trans (Decimal.Binary64.isSome_ofFloat? price)

theorem lt_zero_iff {price : Float} {value : Rat} (known : ofFloat? price = some value) :
    price < 0 ↔ value < 0 := by
  obtain ⟨exact, isExact, rfl⟩ := Option.map_eq_some_iff.mp known
  exact Decimal.Binary64.lt_zero_iff isExact

/-- A double is rounded as the number that it stands for. -/
theorem nearestOfFloat_eq {price : Float} {value : Rat} (known : ofFloat? price = some value) :
    nearestOfFloat price = nearestOfRat value := by
  obtain ⟨exact, isExact, rfl⟩ := Option.map_eq_some_iff.mp known
  have units : (exact.nearest : Int) = nearestOfRat exact.magnitude := by
    rw [nearestOfRat_of_nonneg exact.magnitude_nonneg, exact.nearest_eq_floor]
  simp only [nearestOfFloat, isExact]
  cases sign : exact.negative with
  | false => rw [exact.toRat_of_not_negative sign, if_neg Bool.false_ne_true, units]
  | true => rw [exact.toRat_of_negative sign, if_pos rfl, units, nearestOfRat_neg]

end PublicSite.Booking.Price
