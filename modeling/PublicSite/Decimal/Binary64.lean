/-!
# Doubles as exact numbers

A finite double is a whole number times a power of two.  Rounding and printing
are done on that exact number, in natural-number arithmetic, so no step of them
rounds twice.
-/

namespace PublicSite.Decimal

/-- The exact value of a finite double: `mantissa · 2 ^ exponent`, with a sign. -/
structure Binary64 where
  negative : Bool
  mantissa : Nat
  exponent : Int
  deriving DecidableEq, Repr

namespace Binary64

/-- The exact value of a double given by its bits, unless they stand for an
infinity or for no number. -/
def ofBits? (bits : UInt64) : Option Binary64 :=
  let negative := bits >>> 63 == 1
  let biased := ((bits >>> 52) &&& 0x7FF).toNat
  let fraction := (bits &&& 0xFFFFFFFFFFFFF).toNat
  if biased = 0x7FF then none
  else if biased = 0 then some ⟨negative, fraction, -1074⟩
  else some ⟨negative, fraction + 0x10000000000000, biased - 1075⟩

/-- The exact value of a double, unless it is an infinity or not a number. -/
def ofFloat? (value : Float) : Option Binary64 :=
  ofBits? value.toBits

/-- The natural number nearest to the magnitude, with halves rounded up. -/
def nearest (value : Binary64) : Nat :=
  match value.exponent with
  | .ofNat power => value.mantissa * Nat.pow 2 power
  | .negSucc less => (value.mantissa + Nat.pow 2 less) / Nat.pow 2 (less + 1)

/-- The exact value as a rational number. -/
def toRat (value : Binary64) : Rat :=
  let magnitude : Rat := value.mantissa * (2 : Rat) ^ value.exponent
  if value.negative then -magnitude else magnitude

end Binary64

end PublicSite.Decimal
