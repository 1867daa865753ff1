import PublicSite.Json.Value
import PublicSite.Decimal.Shortest
import PublicSite.Text.Ascii

/-!
# Printing JSON

Values are printed without spaces.  Inside a text only the quotation mark, the
backslash and the control characters below the space are escaped, the common
ones by a letter and the others by four small hexadecimal digits.  A double that
is not finite is printed as `null`.
-/

namespace PublicSite.Json

open PublicSite.Text PublicSite.Decimal

/-- A character as it stands inside a quoted text. -/
def escapeChar (char : Char) : List Char :=
  if char = '"' then ['\\', '"']
  else if char = '\\' then ['\\', '\\']
  else if char = '\x08' then ['\\', 'b']
  else if char = '\x0c' then ['\\', 'f']
  else if char = '\n' then ['\\', 'n']
  else if char = '\r' then ['\\', 'r']
  else if char = '\t' then ['\\', 't']
  else if char.toNat < 0x20 then
    ['\\', 'u', '0', '0', lowerHexDigit (char.toNat / 16), lowerHexDigit (char.toNat % 16)]
  else [char]

/-- A text between quotation marks. -/
def quote (chars : List Char) : List Char :=
  '"' :: chars.flatMap escapeChar ++ ['"']

/-- A whole number in decimal. -/
def printInteger (value : Int) : List Char :=
  if value < 0 then '-' :: Nat.toDigits 10 value.natAbs else Nat.toDigits 10 value.natAbs

/-- A double in its shortest form. -/
def printFloat (value : Float) : List Char :=
  match Binary64.ofFloat? value with
  | some exact => exact.print
  | none => "null".toList

namespace Value

mutual

/-- The compact text of a value. -/
def print : Value → List Char
  | .null => "null".toList
  | .bool true => "true".toList
  | .bool false => "false".toList
  | .integer value => printInteger value
  | .float value => printFloat value
  | .text value => quote value.toList
  | .array items => '[' :: printItems items ++ [']']
  | .object members => '{' :: printMembers members ++ ['}']

/-- Items with commas between them. -/
def printItems : List Value → List Char
  | [] => []
  | [item] => item.print
  | item :: rest => item.print ++ ',' :: printItems rest

/-- Members with commas between them. -/
def printMembers : List (String × Value) → List Char
  | [] => []
  | [(name, value)] => quote name.toList ++ ':' :: value.print
  | (name, value) :: rest => quote name.toList ++ ':' :: (value.print ++ ',' :: printMembers rest)

end

/-- The compact text of a value, as a string. -/
def compactText (value : Value) : String :=
  String.ofList value.print

end Value

end PublicSite.Json
