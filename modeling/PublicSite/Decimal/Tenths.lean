import PublicSite.Decimal.Binary64
import PublicSite.Text.Ascii

/-!
# One place behind the point

A number of single precision is printed with one place behind the point.  The
place is rounded from the exact value, and of two places that are equally near
the even one is taken.
-/

namespace PublicSite.Decimal

open PublicSite.Text

namespace Binary64

/-- The exact value of a number of single precision given by its bits, unless they
stand for an infinity or for no number. -/
def ofSingleBits? (bits : UInt32) : Option Binary64 :=
  let negative := bits >>> 31 == 1
  let biased := ((bits >>> 23) &&& 0xFF).toNat
  let fraction := (bits &&& 0x7FFFFF).toNat
  if biased = 0xFF then none
  else if biased = 0 then some ⟨negative, fraction, -149⟩
  else some ⟨negative, fraction + 0x800000, biased - 150⟩

/-- The whole number nearest to a quotient, with halves to the even one. -/
def nearestEven (dividend divisor : Nat) : Nat :=
  let whole := dividend / divisor
  let twiceRest := 2 * (dividend % divisor)
  if twiceRest < divisor ∨ (twiceRest = divisor ∧ whole % 2 = 0) then whole else whole + 1

/-- The magnitude in tenths. -/
def tenths (value : Binary64) : Nat :=
  match value.exponent with
  | .ofNat power => 10 * value.mantissa * Nat.pow 2 power
  | .negSucc less => nearestEven (10 * value.mantissa) (Nat.pow 2 (less + 1))

/-- A value with one place behind the point. -/
def printTenths (value : Binary64) : List Char :=
  let digits := decimalDigits (value.tenths / 10) ++ '.' :: decimalDigits (value.tenths % 10)
  if value.negative then '-' :: digits else digits

end Binary64

/-- A number of single precision with one place behind the point. -/
def printTenths (value : Float32) : List Char :=
  match Binary64.ofSingleBits? value.toBits with
  | some exact => exact.printTenths
  | none =>
      if value.isNaN then "NaN".toList
      else if value < 0 then "-inf".toList
      else "inf".toList

end PublicSite.Decimal
