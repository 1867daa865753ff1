import PublicSite.Decimal.Binary64

/-!
# Prices

What pricing needs of its numbers.  The site counts in doubles; exact rational
numbers satisfy the same interface, so what is said of prices in general can be
said of exact ones.
-/

namespace PublicSite.Booking

open PublicSite.Decimal

/-- Numbers that prices are counted in. -/
class Price (α : Type) where
  /-- The exact value of a double, unless it is not finite. -/
  ofFloat? : Float → Option α
  /-- A price less an amount. -/
  less : (price amount : α) → α
  /-- A price less a percentage of it. -/
  lessPercent : (price rate : α) → α
  /-- The nearest whole number; halves go away from zero. -/
  round : α → α
  /-- The number itself, or zero when it is negative or not a number. -/
  atLeastZero : α → α
  /-- The number is finite and not negative. -/
  isAmount : α → Bool
  /-- The nearest whole number as an integer; zero when the number is not
  finite. -/
  nearest : α → Int

namespace Price

/-- The integer nearest to a finite double; halves go away from zero. -/
def nearestOfFloat (value : Float) : Int :=
  match Binary64.ofFloat? value with
  | none => 0
  | some exact => if exact.negative then -(exact.nearest : Int) else exact.nearest

instance : Price Float where
  ofFloat? value := if value.isFinite then some value else none
  less price amount := price - amount
  lessPercent price rate := price * (1.0 - rate / 100.0)
  round := Float.round
  atLeastZero value := if value.isNaN || value < 0.0 then 0.0 else value
  isAmount value := value.isFinite && !(value < 0.0)
  nearest := nearestOfFloat

/-- The integer nearest to a rational number; halves go away from zero. -/
def nearestOfRat (value : Rat) : Int :=
  if 0 ≤ value then (value + 1 / 2).floor else -((-value + 1 / 2).floor)

instance : Price Rat where
  ofFloat? value := (Binary64.ofFloat? value).map Binary64.toRat
  less price amount := price - amount
  lessPercent price rate := price * (1 - rate / 100)
  round value := nearestOfRat value
  atLeastZero value := if value < 0 then 0 else value
  isAmount value := decide (0 ≤ value)
  nearest := nearestOfRat

end Price

end PublicSite.Booking
