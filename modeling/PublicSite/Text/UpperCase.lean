import PublicSite.Text.Table
import PublicSite.Text.UpperCase.Table

/-!
# Capital letters

The full upper-case mapping of Unicode, under which a letter may become several:
a sharp s becomes two letters and a ligature its parts.  Discount codes are
compared after it.
-/

namespace PublicSite.Text

/-- The characters that have a capital. -/
def upperCaseTable : Table :=
  Table.ofText upperCaseEntries

/-- The capital form of a character. -/
def upperChar (char : Char) : List Char :=
  if char.toNat < 0x80 then [char.toUpper]
  else (upperCaseTable.mapped? char).getD [char]

/-- A text in capital letters. -/
def upperCase (chars : List Char) : List Char :=
  chars.flatMap upperChar

end PublicSite.Text
