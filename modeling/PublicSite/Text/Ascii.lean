/-!
# ASCII letters

Schemes, hosts and header names ignore the case of ASCII letters and of no
other character, so a dotless or long letter never matches a plain one here.
-/

namespace PublicSite.Text

/-- A text with its ASCII capitals made small. -/
def asciiLower (chars : List Char) : List Char :=
  chars.map Char.toLower

/-- A text opens with a lower-case word, ignoring the case of ASCII letters. -/
def opensWith (word : String) (chars : List Char) : Bool :=
  asciiLower (chars.take word.toList.length) == word.toList

/-- Two texts are equal up to the case of ASCII letters. -/
def sameIgnoringCase (left right : List Char) : Bool :=
  asciiLower left == asciiLower right

/-- The value of a hexadecimal digit. -/
def hexValue? (char : Char) : Option Nat :=
  if char.isDigit then some (char.toNat - 48)
  else if 'a' ≤ char && char ≤ 'f' then some (char.toNat - 87)
  else if 'A' ≤ char && char ≤ 'F' then some (char.toNat - 55)
  else none

/-- The digit of a number below sixteen, with capital letters. -/
def upperHexDigit (value : Nat) : Char :=
  if value < 10 then Char.ofNat (48 + value) else Char.ofNat (55 + value)

/-- The digit of a number below sixteen, with small letters. -/
def lowerHexDigit (value : Nat) : Char :=
  if value < 10 then Char.ofNat (48 + value) else Char.ofNat (87 + value)

/-- The value of a run of decimal digits, most significant first. -/
def decimalValue (digits : List Char) : Nat :=
  digits.foldl (fun value digit => value * 10 + (digit.toNat - 48)) 0

/-- The decimal digits of a number, with no leading zero. -/
def decimalDigits (value : Nat) : List Char :=
  Nat.toDigits 10 value

/-- The number as lower-case hexadecimal digits, with no leading zero. -/
def hexDigits (value : Nat) : List Char :=
  Nat.toDigits 16 value

/-- Digits preceded by as many zeros as fill a width. -/
def padLeft (width : Nat) (fill : Char) (chars : List Char) : List Char :=
  List.replicate (width - chars.length) fill ++ chars

end PublicSite.Text
