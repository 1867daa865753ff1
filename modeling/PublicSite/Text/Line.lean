import PublicSite.Text.Blank
import PublicSite.Text.Pieces

/-!
# Single lines

A single-line field is reduced to its words: the runs of characters between
white space, joined by one space.
-/

namespace PublicSite.Text

/-- The words of a text: its longest runs without white space. -/
def words (chars : List Char) : List (List Char) :=
  fields isBlankChar chars

/-- The words of a text on one line, with a single space between them. -/
def singleLineChars (chars : List Char) : List Char :=
  join [' '] (words chars)

/-- A text reduced to one line. -/
def singleLine (text : String) : String :=
  String.ofList (singleLineChars text.toList)

end PublicSite.Text
