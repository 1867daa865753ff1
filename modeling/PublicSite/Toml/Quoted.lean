import PublicSite.Text.Ascii

/-!
# Quoted text in TOML

Text stands between quotation marks, where a backslash escapes, or between
apostrophes, where nothing does.  Three marks in a row open a text of several
lines: a line end right behind them is dropped, a backslash at the end of a line
joins it to the next word, and up to two marks may stand before the three that
close it.  Control characters other than the tab are refused.

A reader starts behind the opening marks; it gives the text and the rest.
-/

namespace PublicSite.Toml

open PublicSite.Text

/-- A character that may stand in a line. -/
def isLineChar (char : Char) : Bool :=
  char == '\t' || (0x20 ≤ char.toNat && char.toNat != 0x7F)

/-- A space or a tab. -/
def isInnerBlank (char : Char) : Bool :=
  char == ' ' || char == '\t'

/-- The character that a letter after a backslash stands for. -/
def escapedChar? : Char → Option Char
  | '"' => some '"'
  | '\\' => some '\\'
  | 'b' => some '\x08'
  | 'e' => some '\x1b'
  | 'f' => some '\x0c'
  | 'n' => some '\n'
  | 'r' => some '\r'
  | 't' => some '\t'
  | _ => none

/-- The character with a code given in hexadecimal digits, unless the code is no
character. -/
def codedChar? (digits : List Char) : Option Char := do
  let values ← digits.mapM hexValue?
  let code := values.foldl (fun sum value => sum * 16 + value) 0
  if code < 0xD800 || (0xDFFF < code && code < 0x110000) then some (Char.ofNat code) else none

/-- Put a character before what was read. -/
def prepend (char : Char) (found : List Char × List Char) : List Char × List Char :=
  (char :: found.1, found.2)

/-- Put an escaped character, if there is one, before what was read, if it was. -/
def prependEscaped (char? : Option Char) (found? : Option (List Char × List Char)) :
    Option (List Char × List Char) :=
  match char?, found? with
  | some char, some found => some (prepend char found)
  | _, _ => none

/-- A text on one line between quotation marks. -/
def readBasic : List Char → Option (List Char × List Char)
  | [] => none
  | '"' :: rest => some ([], rest)
  | '\\' :: 'x' :: a :: b :: rest => prependEscaped (codedChar? [a, b]) (readBasic rest)
  | '\\' :: 'u' :: a :: b :: c :: d :: rest =>
      prependEscaped (codedChar? [a, b, c, d]) (readBasic rest)
  | '\\' :: 'U' :: a :: b :: c :: d :: e :: f :: g :: h :: rest =>
      prependEscaped (codedChar? [a, b, c, d, e, f, g, h]) (readBasic rest)
  | '\\' :: letter :: rest => prependEscaped (escapedChar? letter) (readBasic rest)
  | char :: rest =>
      if isLineChar char && char != '\\' then (readBasic rest).map (prepend char) else none

/-- A text on one line between apostrophes. -/
def readLiteral : List Char → Option (List Char × List Char)
  | [] => none
  | '\'' :: rest => some ([], rest)
  | char :: rest => if isLineChar char then (readLiteral rest).map (prepend char) else none

/-- The marks at the front of a text close a text of several lines: the marks
that still belong to it, and the rest. -/
def closing? (mark : Char) (chars : List Char) : Option (List Char × List Char) :=
  let run := (chars.takeWhile (· == mark)).length
  if run < 3 then none
  else some (List.replicate (min (run - 3) 2) mark, chars.drop (min run 5))

/-- A text on several lines between quotation marks.  `joining` is set behind a
backslash at the end of a line, until a word begins. -/
def readBasicLines (joining : Bool) : List Char → Option (List Char × List Char)
  | [] => none
  | '\\' :: 'x' :: a :: b :: rest =>
      prependEscaped (codedChar? [a, b]) (readBasicLines false rest)
  | '\\' :: 'u' :: a :: b :: c :: d :: rest =>
      prependEscaped (codedChar? [a, b, c, d]) (readBasicLines false rest)
  | '\\' :: 'U' :: a :: b :: c :: d :: e :: f :: g :: h :: rest =>
      prependEscaped (codedChar? [a, b, c, d, e, f, g, h]) (readBasicLines false rest)
  | '\\' :: letter :: rest =>
      if ((letter :: rest).dropWhile isInnerBlank).head? == some '\n' then
        readBasicLines true rest
      else prependEscaped (escapedChar? letter) (readBasicLines false rest)
  | char :: rest =>
      if joining && (isInnerBlank char || char == '\n') then readBasicLines true rest
      else if char == '"' then
        match closing? '"' (char :: rest) with
        | some found => some found
        | none => (readBasicLines false rest).map (prepend char)
      else if (isLineChar char && char != '\\') || char == '\n' then
        (readBasicLines false rest).map (prepend char)
      else none

/-- A text on several lines between apostrophes. -/
def readLiteralLines : List Char → Option (List Char × List Char)
  | [] => none
  | char :: rest =>
      if char == '\'' then
        match closing? '\'' (char :: rest) with
        | some found => some found
        | none => (readLiteralLines rest).map (prepend char)
      else if isLineChar char || char == '\n' then (readLiteralLines rest).map (prepend char)
      else none

/-- A text without a line end at its front. -/
def dropLineEnd : List Char → List Char
  | '\n' :: rest => rest
  | chars => chars

/-- A quoted text, from its opening marks on. -/
def readQuoted : List Char → Option (List Char × List Char)
  | '"' :: '"' :: '"' :: rest => readBasicLines false (dropLineEnd rest)
  | '\'' :: '\'' :: '\'' :: rest => readLiteralLines (dropLineEnd rest)
  | '"' :: rest => readBasic rest
  | '\'' :: rest => readLiteral rest
  | _ => none

end PublicSite.Toml
