import Mathlib.Algebra.Order.Field.Power
import Mathlib.Data.Rat.Floor
import Mathlib.Tactic.FieldSimp
import Mathlib.Tactic.Positivity
import PublicSite.Decimal.Binary64

/-!
# The numbers that doubles stand for

The bits of a double are cut into the same three fields here and in the core library.  So
a double stands for a number exactly when it is finite, and it is negative exactly when
that number is.
-/

namespace PublicSite.Decimal.Binary64

open Float.Model Float.Model.UnpackedFloat

/-! ## The fields of a double -/

theorem toNat_unpackExponent (bits : UInt64) :
    (@unpackExponent Format.binary64 bits.toBitVec).toNat =
      ((bits >>> 52) &&& 0x7FF).toNat := by
  change (bits.toNat >>> 52) % 2 ^ 11 = (bits.toNat >>> 52) &&& (2 ^ 11 - 1)
  rw [Nat.and_two_pow_sub_one_eq_mod]

theorem toNat_unpackMantissa (bits : UInt64) :
    (@unpackMantissa Format.binary64 bits.toBitVec).toNat =
      (bits &&& 0xFFFFFFFFFFFFF).toNat := by
  change (bits.toNat >>> 0) % 2 ^ 52 = bits.toNat &&& (2 ^ 52 - 1)
  rw [Nat.and_two_pow_sub_one_eq_mod, Nat.shiftRight_zero]

theorem toNat_unpackSign (bits : UInt64) :
    (@unpackSign Format.binary64 bits.toBitVec).toNat = (bits >>> 63).toNat := by
  change (bits.toNat >>> 63) % 2 ^ 1 = bits.toNat >>> 63
  have small := bits.toNat_lt
  rw [Nat.shiftRight_eq_div_pow]
  omega

/-- The sign of a double is its first bit. -/
theorem isNegative_ofBitVec_unpackSign (bits : UInt64) :
    (Sign.ofBitVec (@unpackSign Format.binary64 bits.toBitVec) == .negative) =
      (bits >>> 63 == 1) := by
  have sameBit := toNat_unpackSign bits
  generalize @unpackSign Format.binary64 bits.toBitVec = sign at sameBit ⊢
  by_cases zero : sign = 0#1
  · subst zero
    have notOne : bits >>> 63 ≠ 1 := by
      intro one
      rw [one] at sameBit
      exact absurd sameBit (by decide)
    rw [beq_eq_false_iff_ne.mpr notOne]
    rfl
  · have isOne : bits >>> 63 = 1 := by
      apply UInt64.toNat_inj.mp
      have notZero : sign.toNat ≠ 0 := fun same => zero (BitVec.eq_of_toNat_eq same)
      have small := sign.isLt
      change _ = 1
      omega
    rw [isOne, Sign.ofBitVec, if_neg zero]
    rfl

/-- The bit that is not written stands before the others. -/
theorem toNat_one_append (fraction : BitVec 52) :
    (1#1 ++ fraction).toNat = fraction.toNat + 0x10000000000000 := by
  change 2 ^ 52 ||| fraction.toNat = fraction.toNat + 2 ^ 52
  rw [Nat.or_comm, Nat.or_two_pow_eq_add_of_lt fraction.isLt]

/-! ## The exact value -/

/-- The exact value of a double of which the fields are known, unless it is an infinity or
not a number. -/
def ofUnpacked? : UnpackedFloat → Option Binary64
  | .notANumber => none
  | .infinity _ => none
  | .zero sign => some ⟨sign == .negative, 0, -1074⟩
  | .finite sign mantissa exponent _ => some ⟨sign == .negative, mantissa, exponent⟩

/-- The bits stand for what the core library takes from them. -/
theorem ofBits?_eq (bits : UInt64) :
    ofBits? bits = ofUnpacked? (unpack Format.binary64 bits.toBitVec) := by
  simp only [ofBits?, ← toNat_unpackExponent, ← toNat_unpackMantissa,
    ← isNegative_ofBitVec_unpackSign]
  -- The fields are variables from here on, so that each of the two tests of the exponent is
  -- one on both sides.
  delta UnpackedFloat.unpack
  dsimp only
  generalize Sign.ofBitVec (@unpackSign Format.binary64 bits.toBitVec) = sign
  generalize @unpackExponent Format.binary64 bits.toBitVec = exponent
  by_cases allOnes : exponent = -1#11
  · -- An infinity is told from what is no number, and neither has a value.
    rw [if_pos allOnes, if_pos (by rw [allOnes]; rfl)]
    split <;> rfl
  have notAllOnes : exponent.toNat ≠ 2047 := fun same => allOnes (BitVec.eq_of_toNat_eq same)
  rw [if_neg allOnes, if_neg notAllOnes]
  by_cases zeros : exponent = 0#11
  · rw [if_pos zeros, if_pos (by rw [zeros]; rfl)]
    -- A zero has a constructor of its own in the core library, but the same value.
    by_cases noFraction : @unpackMantissa Format.binary64 bits.toBitVec = 0#52
    · rw [dif_pos noFraction, noFraction]
      rfl
    · rw [dif_neg noFraction, zeros]
      rfl
  · have notZeros : exponent.toNat ≠ 0 := fun same => zeros (BitVec.eq_of_toNat_eq same)
    rw [if_neg zeros, if_neg notZeros, ← toNat_one_append]
    rfl

theorem ofFloat?_eq (value : Float) : ofFloat? value = ofUnpacked? value.toModel.unpack :=
  ofBits?_eq value.toModel.toBits

/-- Only a finite double stands for a number. -/
theorem isSome_ofFloat? (value : Float) : (ofFloat? value).isSome = value.isFinite := by
  rw [ofFloat?_eq]
  change _ = value.toModel.unpack.isFinite
  cases value.toModel.unpack with
  | notANumber => rfl
  | infinity sign => rfl
  | zero sign => rfl
  | finite sign mantissa exponent positive => rfl

/-! ## The sign -/

/-- The exact value without its sign. -/
def magnitude (value : Binary64) : Rat :=
  value.mantissa * (2 : Rat) ^ value.exponent

theorem magnitude_nonneg (value : Binary64) : 0 ≤ value.magnitude := by
  unfold magnitude
  positivity

theorem toRat_of_negative {value : Binary64} (negative : value.negative = true) :
    value.toRat = -value.magnitude := by
  rw [toRat, if_pos negative, magnitude]

theorem toRat_of_not_negative {value : Binary64} (notNegative : value.negative = false) :
    value.toRat = value.magnitude := by
  rw [toRat, notNegative, if_neg Bool.false_ne_true, magnitude]

/-- A double with a minus sign is below zero unless it is a zero. -/
theorem toRat_neg_iff (value : Binary64) :
    value.toRat < 0 ↔ value.negative = true ∧ 0 < value.mantissa := by
  have power : (0 : Rat) < 2 ^ value.exponent := by positivity
  cases sign : value.negative with
  | false =>
      rw [toRat_of_not_negative sign]
      exact iff_of_false (not_lt.mpr value.magnitude_nonneg) (by simp)
  | true =>
      rw [toRat_of_negative sign, neg_lt_zero, magnitude, mul_pos_iff_of_pos_right power,
        Nat.cast_pos]
      simp

theorem lt_zero_iff_unpacked (value : Float) :
    value < 0 ↔ value.toModel.unpack.lt (.zero .positive) = true :=
  decide_eq_true_iff

/-- A double is below zero when the number that it stands for is. -/
theorem lt_zero_iff {value : Float} {exact : Binary64} (known : ofFloat? value = some exact) :
    value < 0 ↔ exact.toRat < 0 := by
  rw [lt_zero_iff_unpacked, toRat_neg_iff]
  rw [ofFloat?_eq] at known
  cases fields : value.toModel.unpack with
  | notANumber => exact absurd (fields ▸ known) nofun
  | infinity sign => exact absurd (fields ▸ known) nofun
  | zero sign =>
      rw [fields] at known
      obtain rfl := Option.some.inj known
      exact iff_of_false (by cases sign <;> decide) (by simp)
  | finite sign mantissa exponent positive =>
      rw [fields] at known
      obtain rfl := Option.some.inj known
      cases sign with
      | negative => exact iff_of_true rfl ⟨rfl, positive⟩
      | positive => exact iff_of_false nofun nofun

/-! ## Rounding -/

/-- The magnitude is rounded with halves going up. -/
theorem nearest_eq_floor (value : Binary64) :
    (value.nearest : Int) = ⌊value.magnitude + 1 / 2⌋ := by
  obtain ⟨negative, mantissa, exponent⟩ := value
  cases exponent with
  | ofNat power =>
      have whole : (mantissa : Rat) * 2 ^ Int.ofNat power =
          ((mantissa * 2 ^ power : Nat) : Rat) := by
        rw [Int.ofNat_eq_natCast, zpow_natCast]
        norm_cast
      have half : ⌊(1 / 2 : Rat)⌋ = 0 := by norm_num
      rw [magnitude, whole, Int.floor_natCast_add, half, add_zero]
      rfl
  | negSucc less =>
      have fraction : (mantissa : Rat) * 2 ^ Int.negSucc less + 1 / 2 =
          ((mantissa + 2 ^ less : Nat) : Rat) / ((2 ^ (less + 1) : Nat) : Rat) := by
        rw [zpow_negSucc]
        push_cast
        field_simp
        ring
      rw [magnitude, fraction, Rat.floor_natCast_div_natCast]
      rfl

end PublicSite.Decimal.Binary64
