import PublicSite.Toml.Scalar
import PublicSite.Toml.Quoted
import PublicSite.Toml.Tree

/-!
# Reading TOML

`parse?` gives the value of a document, an object, or nothing when the document
is not well formed.  Lines end in a line feed, which a carriage return may
precede.  A comment runs to the end of its line; an array or an inline table may
run over several lines and may have a comma behind its last part.

Every call takes one unit of fuel and every nested call follows at least one
character, so a fuel above the length of the text is never used up.
-/

namespace PublicSite.Toml

open PublicSite.Text PublicSite.Json

/-! ## Blanks and comments -/

/-- Skip spaces and tabs. -/
def skipInner (chars : List Char) : List Char :=
  chars.dropWhile isInnerBlank

/-- Skip a comment, if one begins here; nothing when it holds a control
character. -/
def skipComment? : List Char → Option (List Char)
  | '#' :: rest =>
      if (before (· == '\n') rest).all isLineChar then some (startingAt (· == '\n') rest) else none
  | chars => some chars

/-- Skip blanks, comments and line ends. -/
def skipLines? : (fuel : Nat) → List Char → Option (List Char)
  | 0, _ => none
  | fuel + 1, chars => do
      match ← skipComment? (skipInner chars) with
      | '\n' :: rest => skipLines? fuel rest
      | rest => some rest

/-- The rest of a line after a statement: blanks and perhaps a comment. -/
def endLine? (chars : List Char) : Option (List Char) := do
  match ← skipComment? (skipInner chars) with
  | [] => some []
  | '\n' :: rest => some rest
  | _ => none

/-! ## Keys -/

/-- A character of a key without quotation marks. -/
def isKeyChar (char : Char) : Bool :=
  char.isAlphanum || char == '_' || char == '-'

/-- One part of a key. -/
def readKeyPart (chars : List Char) : Option (String × List Char) := do
  let (part, rest) ← match chars with
    | '"' :: rest => readBasic rest
    | '\'' :: rest => readLiteral rest
    | _ =>
        if (chars.takeWhile isKeyChar).isEmpty then none
        else some (chars.takeWhile isKeyChar, chars.dropWhile isKeyChar)
  return (String.ofList part, skipInner rest)

/-- A key: parts with points between them. -/
def readKey : (fuel : Nat) → List Char → Option (List String × List Char)
  | 0, _ => none
  | fuel + 1, chars => do
      let (part, rest) ← readKeyPart (skipInner chars)
      match rest with
      | '.' :: later =>
          let (parts, last) ← readKey fuel later
          return (part :: parts, last)
      | _ => return ([part], rest)

/-! ## Values -/

mutual

/-- A value, from its first character on. -/
def readValue : (fuel : Nat) → List Char → Option (Value × List Char)
  | 0, _ => none
  | fuel + 1, chars =>
      match chars with
      | '[' :: rest =>
          (readItems fuel rest).map fun found => (.array found.1, found.2)
      | '\x7b' :: rest =>
          (readInline fuel [] rest).map fun found => (.object (Node.members found.1), found.2)
      | '"' :: _ => (readQuoted chars).map fun found => (.text (String.ofList found.1), found.2)
      | '\'' :: _ => (readQuoted chars).map fun found => (.text (String.ofList found.1), found.2)
      | _ =>
          let (word, rest) := takeScalar chars
          (scalar? word).map fun value => (value, rest)

/-- The items of an array, up to and with its bracket. -/
def readItems : (fuel : Nat) → List Char → Option (List Value × List Char)
  | 0, _ => none
  | fuel + 1, chars => do
      match ← skipLines? (chars.length + 1) chars with
      | ']' :: rest => return ([], rest)
      | itemOn =>
          let (item, afterItem) ← readValue fuel itemOn
          match ← skipLines? (afterItem.length + 1) afterItem with
          | ']' :: rest => return ([item], rest)
          | ',' :: rest =>
              let (items, later) ← readItems fuel rest
              return (item :: items, later)
          | _ => none

/-- The settings of an inline table, up to and with its brace. -/
def readInline : (fuel : Nat) → Entries → List Char → Option (Entries × List Char)
  | 0, _, _ => none
  | fuel + 1, entries, chars => do
      match ← skipLines? (chars.length + 1) chars with
      | '\x7d' :: rest => return (entries, rest)
      | settingOn =>
          let (path, afterKey) ← readKey (settingOn.length + 1) settingOn
          match afterKey with
          | '=' :: valueOn =>
              let (value, afterValue) ← readValue fuel (skipInner valueOn)
              let extended ← entries.assign value path
              match ← skipLines? (afterValue.length + 1) afterValue with
              | '\x7d' :: rest => return (extended, rest)
              | ',' :: rest => readInline fuel extended rest
              | _ => none
          | _ => none

end

/-! ## Documents -/

/-- One statement, from its first character on. -/
def readStatement (chars : List Char) : Option (Document.Statement × List Char) := do
  let fuel := chars.length + 1
  match chars with
  | '[' :: '[' :: rest =>
      match ← readKey fuel rest with
      | (path, ']' :: ']' :: later) => return (.repeatedHeader path, later)
      | _ => none
  | '[' :: rest =>
      match ← readKey fuel rest with
      | (path, ']' :: later) => return (.header path, later)
      | _ => none
  | _ =>
      match ← readKey fuel chars with
      | (path, '=' :: valueOn) =>
          let (value, later) ← readValue fuel (skipInner valueOn)
          return (.setting path value, later)
      | _ => none

/-- All statements of a document, each on a line of its own. -/
def readStatements : (fuel : Nat) → Document → List Char → Option Document
  | 0, _, _ => none
  | fuel + 1, document, chars => do
      match ← skipLines? (chars.length + 1) chars with
      | [] => return document
      | statementOn =>
          let (statement, afterStatement) ← readStatement statementOn
          let extended ← document.add statement
          readStatements fuel extended (← endLine? afterStatement)

/-- A text with every line ended by a line feed alone. -/
def unifyLineEnds : List Char → List Char
  | [] => []
  | '\r' :: '\n' :: rest => '\n' :: unifyLineEnds rest
  | char :: rest => char :: unifyLineEnds rest

/-- The value of a document. -/
def parse? (text : String) : Option Value :=
  let chars := match text.toList with
    | '\uFEFF' :: rest => unifyLineEnds rest
    | chars => unifyLineEnds chars
  (readStatements (chars.length + 1) .empty chars).map Document.value

end PublicSite.Toml
