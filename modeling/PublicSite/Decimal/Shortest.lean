import PublicSite.Decimal.Binary64

/-!
# Shortest decimal digits

The shortest digits that read back as a double are found by trying one digit,
two digits, and so on up to seventeen.  For a count of digits the decimal grid
has two neighbours of the exact value; the first grid with a neighbour in the
interval of reals that round to the double wins, and of two such neighbours the
nearer one, with a tie going to the even digit.  All comparisons are between
natural numbers.
-/

namespace PublicSite.Decimal

/-- Digits with the place of the decimal point: the number is
`0.digits · 10 ^ point`. -/
structure Digits where
  digits : List Char
  point : Int
  deriving Repr

/-- A quotient of natural numbers multiplied by a power of ten. -/
def scaleTen (numerator denominator : Nat) (power : Int) : Nat × Nat :=
  match power with
  | .ofNat up => (numerator * Nat.pow 10 up, denominator)
  | .negSucc down => (numerator, denominator * Nat.pow 10 (down + 1))

/-- The number `point` with `10 ^ (point - 1) ≤ numerator / denominator < 10 ^ point`,
for a positive quotient. -/
def pointOf (numerator denominator : Nat) : Int :=
  if denominator ≤ numerator then
    (Nat.toDigits 10 (numerator / denominator)).length
  else
    let ratio := (denominator + numerator - 1) / numerator
    1 - ((Nat.toDigits 10 (ratio - 1)).length : Int)

/-- The neighbours of a positive double on one decimal grid that read back as
the double, as multiples of the grid's unit, the better one first. -/
def candidates (numerator low high denominator : Nat) (closed : Bool) (power : Int) :
    List Nat :=
  let (scaled, unit) := scaleTen numerator denominator power
  let (scaledLow, unitLow) := scaleTen low denominator power
  let (scaledHigh, unitHigh) := scaleTen high denominator power
  let below := scaled / unit
  let inside := fun multiple =>
    if closed then decide (scaledLow ≤ multiple * unitLow ∧ multiple * unitHigh ≤ scaledHigh)
    else decide (scaledLow < multiple * unitLow ∧ multiple * unitHigh < scaledHigh)
  let above := below + 1
  let distanceBelow := scaled - below * unit
  let distanceAbove := above * unit - scaled
  let belowFirst := distanceBelow < distanceAbove ∨ (distanceBelow = distanceAbove ∧ below % 2 = 0)
  (if belowFirst then [below, above] else [above, below]).filter inside

/-- The shortest digits of a positive quotient: try every count of digits from
`count` on, `tries` times at most. -/
def search (numerator low high denominator : Nat) (closed : Bool) (point : Int) :
    (tries count : Nat) → Digits
  | 0, _ => ⟨Nat.toDigits 10 numerator, point⟩
  | tries + 1, count =>
      match candidates numerator low high denominator closed (count - point) with
      | [] => search numerator low high denominator closed point tries (count + 1)
      | best :: _ =>
          let digits := Nat.toDigits 10 best
          let kept := (digits.reverse.dropWhile (· == '0')).reverse
          ⟨kept, point + ((digits.length : Int) - (count : Int))⟩

/-- The shortest digits that read back as a positive double. -/
def shortest (value : Binary64) : Digits :=
  let boundary := value.mantissa = 0x10000000000000 ∧ value.exponent > -1074
  let four := 4 * value.mantissa
  let lowFour := if boundary then four - 1 else four - 2
  let highFour := four + 2
  let (up, down) := match value.exponent - 2 with
    | .ofNat power => (Nat.pow 2 power, 1)
    | .negSucc less => (1, Nat.pow 2 (less + 1))
  let numerator := four * up
  search numerator (lowFour * up) (highFour * up) down (value.mantissa % 2 = 0)
    (pointOf numerator down) 17 1

/-- How a double is written: positionally when its first digit stands between
the fifth place after the point and the sixteenth before it, always with a
point; otherwise with an exponent that has a sign. -/
def layout (digits : List Char) (point : Int) : List Char :=
  let count : Int := digits.length
  if 0 < point ∧ point ≤ 16 then
    if count ≤ point then
      digits ++ List.replicate (point - count).toNat '0' ++ ['.', '0']
    else digits.take point.toNat ++ '.' :: digits.drop point.toNat
  else if -5 < point ∧ point ≤ 0 then
    '0' :: '.' :: (List.replicate (-point).toNat '0' ++ digits)
  else
    let power := point - 1
    let sign := if power < 0 then '-' else '+'
    let mantissa := match digits with
      | [] => []
      | [only] => [only]
      | first :: rest => first :: '.' :: rest
    mantissa ++ 'e' :: sign :: Nat.toDigits 10 power.natAbs

/-- A finite double in its shortest form. -/
def Binary64.print (value : Binary64) : List Char :=
  let body :=
    if value.mantissa = 0 then ['0', '.', '0']
    else let found := shortest value; layout found.digits found.point
  if value.negative then '-' :: body else body

end PublicSite.Decimal
