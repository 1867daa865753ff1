import PublicSite.Json.Value
import PublicSite.Decimal.Reading
import PublicSite.Text.Pieces

/-!
# TOML scalars

Numbers, truth values and moments as they are written outside quotation marks.
A whole number has 64 bits and may be grouped by underscores, each between two
digits; a fraction must be finite unless it is one of the words for an infinity
or for no number.  A date or time is kept as its text, with its fraction of a
second to nine places and without zeros at the end.
-/

namespace PublicSite.Toml

open PublicSite.Text PublicSite.Decimal PublicSite.Json

/-! ## Numbers -/

/-- The digits of a number whose groups are separated by underscores. -/
def ungroup? (isDigit : Char → Bool) (chars : List Char) : Option (List Char) :=
  let groups := pieces (· == '_') chars
  if groups.all fun group => !group.isEmpty && group.all isDigit then some groups.flatten
  else none

/-- The digits of a decimal number without superfluous zeros at the front. -/
def wholeDigits? (chars : List Char) : Option (List Char) := do
  let digits ← ungroup? Char.isDigit chars
  if digits.length > 1 && digits.head? == some '0' then none else some digits

/-- A whole number that fits 64 bits with a sign. -/
def word? (value : Int) : Option Value :=
  if -0x8000000000000000 ≤ value ∧ value < 0x8000000000000000 then some (.integer value) else none

/-- The value of digits in a base. -/
def baseValue (base : Nat) (digits : List Char) : Nat :=
  digits.foldl (fun value digit => value * base + (hexValue? digit).getD 0) 0

/-- A character is a digit in a base up to sixteen. -/
def isBaseDigit (base : Nat) (char : Char) : Bool :=
  match hexValue? char with
  | some value => value < base
  | none => false

/-- A whole number in a base other than ten. -/
def basedInteger? (base : Nat) (chars : List Char) : Option Value := do
  let digits ← ungroup? (isBaseDigit base) chars
  word? (baseValue base digits)

/-- A whole number, perhaps with a sign or with the mark of a base. -/
def integer? : List Char → Option Value
  | '0' :: 'x' :: rest => basedInteger? 16 rest
  | '0' :: 'o' :: rest => basedInteger? 8 rest
  | '0' :: 'b' :: rest => basedInteger? 2 rest
  | chars => do
      let (negative, unsigned) := splitSign chars
      let digits ← wholeDigits? unsigned
      let value : Int := decimalValue digits
      word? (if negative then -value else value)

/-- The exponent of a fraction begins here. -/
def isPowerMark (char : Char) : Bool :=
  char == 'e' || char == 'E'

/-- The digits of the parts of a fraction, put together without underscores. -/
def fractionText? (unsigned : List Char) : Option (List Char) := do
  let mantissa := before isPowerMark unsigned
  let power := startingAt isPowerMark unsigned
  let mantissaText ← match splitOnce? (· == '.') mantissa with
    | none => wholeDigits? mantissa
    | some (whole, fraction) => do
        return (← wholeDigits? whole) ++ '.' :: (← ungroup? Char.isDigit fraction)
  match power with
  | [] => if mantissaText.contains '.' then some mantissaText else none
  | _ :: exponent => do
      let (negative, digits) := splitSign exponent
      let sign := if negative then '-' else '+'
      return mantissaText ++ 'e' :: sign :: (← ungroup? Char.isDigit digits)

/-- A fraction, or a word for an infinity or for no number. -/
def fraction? (chars : List Char) : Option Value := do
  let (negative, unsigned) := splitSign chars
  let magnitude ← match String.ofList unsigned with
    | "inf" => some (1.0 / 0.0)
    | "nan" => some (0.0 / 0.0)
    | _ => do
        let value ← readDouble? (← fractionText? unsigned)
        if value.isFinite then some value else none
  return .float (if negative then -magnitude else magnitude)

/-! ## Dates and times -/

/-- A number of a fixed count of digits within bounds. -/
def ranged? (width low high : Nat) (chars : List Char) : Option Nat :=
  let value := decimalValue chars
  if chars.length = width && chars.all Char.isDigit && low ≤ value && value ≤ high
  then some value else none

/-- A year with a day at the end of February. -/
def isLeapYear (year : Nat) : Bool :=
  (year % 4 == 0 && year % 100 != 0) || year % 400 == 0

/-- The count of days of a month. -/
def daysOfMonth (year month : Nat) : Nat :=
  if month = 2 then (if isLeapYear year then 29 else 28)
  else if [4, 6, 9, 11].contains month then 30
  else 31

/-- A date: year, month and day. -/
def isDate (chars : List Char) : Bool :=
  match pieces (· == '-') chars with
  | [year, month, day] =>
      match ranged? 4 0 9999 year, ranged? 2 1 12 month with
      | some yearValue, some monthValue =>
          (ranged? 2 1 (daysOfMonth yearValue monthValue) day).isSome
      | _, _ => false
  | _ => false

/-- A fraction of a second, with the point before it, as it is kept. -/
def keptFraction (digits : List Char) : List Char :=
  match ((digits.take 9).reverse.dropWhile (· == '0')).reverse with
  | [] => []
  | kept => '.' :: kept

/-- The text of a time of day, from hours to fractions of a second.  Seconds that
are left out are zero. -/
def time? (chars : List Char) : Option (List Char) := do
  let (clock, fraction) := match splitOnce? (· == '.') chars with
    | none => (chars, none)
    | some (clock, fraction) => (clock, some fraction)
  match pieces (· == ':') clock, fraction with
  | [hour, minute], none => do
      let _ ← ranged? 2 0 23 hour
      let _ ← ranged? 2 0 59 minute
      return clock ++ ":00".toList
  | [hour, minute, second], _ => do
      let _ ← ranged? 2 0 23 hour
      let _ ← ranged? 2 0 59 minute
      let _ ← ranged? 2 0 60 second
      match fraction with
      | none => some clock
      | some digits =>
          if !digits.isEmpty && digits.all Char.isDigit then some (clock ++ keptFraction digits)
          else none
  | _, _ => none

/-- The distance of a time zone from universal time begins here. -/
def startsOffset (char : Char) : Bool :=
  char == '+' || char == '-' || char == 'Z' || char == 'z'

/-- The text of a distance from universal time. -/
def offset? : List Char → Option (List Char)
  | [] => some []
  | ['Z'] => some ['Z']
  | ['z'] => some ['Z']
  | sign :: distance =>
      match pieces (· == ':') distance with
      | [hours, minutes] => do
          let _ ← ranged? 2 0 23 hours
          let _ ← ranged? 2 0 59 minutes
          if sign == '+' || sign == '-' then some (sign :: distance) else none
      | _ => none

/-- The count of characters of a written date. -/
def dateWidth : Nat := 10

/-- A date, a time of day, or both, perhaps with a time zone. -/
def moment? (chars : List Char) : Option Value :=
  let day := chars.take dateWidth
  if isDate day then
    match chars.drop dateWidth with
    | [] => some (.text (String.ofList day))
    | mark :: rest => do
        if mark != 'T' && mark != 't' && mark != ' ' then none
        let clock ← time? (before startsOffset rest)
        let zone ← offset? (startingAt startsOffset rest)
        return .text (String.ofList (day ++ 'T' :: (clock ++ zone)))
  else (time? chars).map fun clock => .text (String.ofList clock)

/-! ## Scalars -/

/-- A character of a scalar without quotation marks. -/
def isScalarChar (char : Char) : Bool :=
  char.isAlphanum || "+-._:".toList.contains char

/-- Take a scalar from the front of a text; a date may be followed by one space
and a time. -/
def takeScalar (chars : List Char) : List Char × List Char :=
  let word := chars.takeWhile isScalarChar
  let rest := chars.dropWhile isScalarChar
  match rest with
  | ' ' :: digit :: later =>
      if isDate word && digit.isDigit then
        (word ++ ' ' :: (digit :: later).takeWhile isScalarChar,
          (digit :: later).dropWhile isScalarChar)
      else (word, rest)
  | _ => (word, rest)

/-- The value of a scalar. -/
def scalar? (chars : List Char) : Option Value :=
  match String.ofList chars with
  | "true" => some (.bool true)
  | "false" => some (.bool false)
  | _ => (integer? chars).orElse fun _ => (fraction? chars).orElse fun _ => moment? chars

end PublicSite.Toml
