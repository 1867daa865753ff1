import PublicSite.Text.Ascii

/-!
# Reading decimal numbers

Two readers.  `readDouble?` gives the double nearest to a decimal text, as
configuration text and discount amounts are read.  `scaleDouble?` is the rule
for numbers inside JSON text: the leading digits, as many as fit 64 bits, become
a double which is then multiplied or divided by a power of ten in double
arithmetic.
-/

namespace PublicSite.Decimal

open PublicSite.Text

/-- Remove a sign; the answer says whether it was a minus. -/
def splitSign : List Char → Bool × List Char
  | '-' :: rest => (true, rest)
  | '+' :: rest => (false, rest)
  | chars => (false, chars)

/-- The double nearest to `digits · 10 ^ power`. -/
def nearestDouble (digits : List Char) (power : Int) : Float :=
  let significant := digits.dropWhile (· == '0')
  let point := (significant.length : Int) + power
  if significant.isEmpty then 0.0
  else if point > 310 then 1.0 / 0.0
  else if point < -330 then 0.0
  else
    let value := decimalValue significant
    match power with
    | .ofNat up => Float.ofScientific value false up
    | .negSucc down => Float.ofScientific value true (down + 1)

/-- A signed whole number, with at least one digit. -/
def readExponent? (chars : List Char) : Option Int :=
  let (negative, digits) := splitSign chars
  if digits.isEmpty || !digits.all Char.isDigit then none
  else some (if negative then -(decimalValue digits : Int) else (decimalValue digits : Int))

/-- A decimal number without its sign: digits with at most one point and at
least one digit, and perhaps an exponent. -/
def readUnsigned? (chars : List Char) : Option Float :=
  let whole := chars.takeWhile Char.isDigit
  let afterWhole := chars.dropWhile Char.isDigit
  let (fraction, afterFraction) := match afterWhole with
    | '.' :: rest => (rest.takeWhile Char.isDigit, rest.dropWhile Char.isDigit)
    | _ => ([], afterWhole)
  if whole.isEmpty && fraction.isEmpty then none
  else
    let shift : Int := -(fraction.length : Int)
    match afterFraction with
    | [] => some (nearestDouble (whole ++ fraction) shift)
    | mark :: exponent =>
        if mark == 'e' || mark == 'E' then
          (readExponent? exponent).map fun power =>
            nearestDouble (whole ++ fraction) (shift + power)
        else none

/-- A decimal number, or one of the words for an infinity and for no number in
any case, as the nearest double. -/
def readDouble? (chars : List Char) : Option Float :=
  let (negative, body) := splitSign chars
  let word := String.ofList (asciiLower body)
  let magnitude :=
    if word == "inf" || word == "infinity" then some (1.0 / 0.0)
    else if word == "nan" then some (0.0 / 0.0)
    else readUnsigned? body
  magnitude.map fun value => if negative then -value else value

/-- The largest number of 64 bits. -/
def largestWord : Nat := 0xFFFFFFFFFFFFFFFF

/-- The leading digits that fit 64 bits, after `start`, and the digits left over. -/
def leadingDigits : (start : Nat) → List Char → Nat × List Char
  | start, [] => (start, [])
  | start, digit :: rest =>
      let next := start * 10 + (digit.toNat - 48)
      if next ≤ largestWord then leadingDigits next rest else (start, digit :: rest)

/-- A power of ten as a double. -/
def tenPower (power : Nat) : Float :=
  Float.ofScientific 1 false power

/-- A double multiplied by a power of ten, in steps of at most `10 ^ 308`;
nothing when the result is too large. -/
def scaleDouble? (tries : Nat) (value : Float) (power : Int) : Option Float :=
  match tries with
  | 0 => some value
  | more + 1 =>
      if power.natAbs ≤ 308 then
        if power ≥ 0 then
          let scaled := value * tenPower power.natAbs
          if scaled.isInf then none else some scaled
        else some (value / tenPower power.natAbs)
      else if value == 0.0 then some value
      else if power ≥ 0 then none
      else scaleDouble? more (value / tenPower 308) (power + 308)

/-- The double written as `whole . fraction e power`, by the rule for numbers
inside JSON text; nothing when it is too large. -/
def scaledDouble? (whole fraction : List Char) (power : Int) : Option Float :=
  let (significand, dropped) := leadingDigits 0 whole
  let (extended, unread) := leadingDigits significand fraction
  let shift : Int := (dropped.length : Int) - ((fraction.length : Int) - (unread.length : Int))
  if extended = 0 then some 0.0
  else if power > 0x7FFFFFFF then none
  else if power < -0x7FFFFFFF then some 0.0
  else
    let total := shift + power
    if total < -2000 then some 0.0
    else scaleDouble? 8 extended.toUInt64.toFloat total

end PublicSite.Decimal
