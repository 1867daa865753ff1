import PublicSite.Json.Draft
import PublicSite.Decimal.Reading

/-!
# Reading JSON

`Draft.read` reads one value from the front of a text and gives what it found
together with the rest.  The grammar is that of RFC 8259 and nothing more: only
space, tab, line feed and carriage return may stand between tokens, a number has
no leading zero or plus sign, and control characters must be escaped.

Every call takes one unit of fuel and every nested call follows at least one
character, so a fuel above the length of the text is never used up.
-/

namespace PublicSite.Json

open PublicSite.Text PublicSite.Decimal

/-- The four characters that may stand between tokens. -/
def isSpace (char : Char) : Bool :=
  char == ' ' || char == '\n' || char == '\t' || char == '\r'

/-- Skip the characters that may stand between tokens. -/
def skipSpace (chars : List Char) : List Char :=
  chars.dropWhile isSpace

/-- The number written by four hexadecimal digits. -/
def hexWord? (a b c d : Char) : Option Nat := do
  return (← hexValue? a) * 4096 + (← hexValue? b) * 256 + (← hexValue? c) * 16 + (← hexValue? d)

/-- The character that a letter after a backslash stands for. -/
def letterEscape? (char : Char) : Option Char :=
  match char with
  | '"' => some '"'
  | '\\' => some '\\'
  | '/' => some '/'
  | 'b' => some '\x08'
  | 'f' => some '\x0c'
  | 'n' => some '\n'
  | 'r' => some '\r'
  | 't' => some '\t'
  | _ => none

/-- What one character or one escape inside a text stands for: a character, or
half of a surrogate pair. -/
inductive TextUnit where
  | char (value : Char)
  | surrogate (code : Nat)

/-- The unit that a four-digit escape stands for. -/
def TextUnit.ofCode (code : Nat) : TextUnit :=
  if 0xD800 ≤ code ∧ code ≤ 0xDFFF then .surrogate code else .char (Char.ofNat code)

/-- The characters of a run of units, unless a surrogate lacks its partner. -/
def joinUnits? : List TextUnit → Option (List Char)
  | [] => some []
  | .char value :: rest => (joinUnits? rest).map (value :: ·)
  | .surrogate high :: .surrogate low :: rest =>
      if high < 0xDC00 ∧ 0xDC00 ≤ low then
        (joinUnits? rest).map (Char.ofNat (0x10000 + (high - 0xD800) * 0x400 + (low - 0xDC00)) :: ·)
      else none
  | .surrogate _ :: _ => none

/-- Read a text after its opening quotation mark, up to and with the closing
one.  The answer is `none` when the text is malformed. -/
def readUnits : List Char → Option (List TextUnit × List Char)
  | [] => none
  | '"' :: rest => some ([], rest)
  | '\\' :: 'u' :: a :: b :: c :: d :: rest =>
      match hexWord? a b c d, readUnits rest with
      | some code, some (units, later) => some (.ofCode code :: units, later)
      | _, _ => none
  | '\\' :: letter :: rest =>
      match letterEscape? letter, readUnits rest with
      | some char, some (units, later) => some (.char char :: units, later)
      | _, _ => none
  | char :: rest =>
      if char.toNat < 0x20 || char = '\\' then none
      else (readUnits rest).map fun found => (.char char :: found.1, found.2)

/-- Read a text after its opening quotation mark: its characters, or nothing in
their place when a surrogate lacks its partner, and the rest of the input. -/
def readText (chars : List Char) : Option (Option (List Char) × List Char) :=
  (readUnits chars).map fun found => (joinUnits? found.1, found.2)

/-- The exponent of a number: nothing, or a mark, perhaps a sign, and digits. -/
def readPower (chars : List Char) : Option (Option Int × List Char) :=
  match chars with
  | mark :: rest =>
      if mark == 'e' || mark == 'E' then
        let (negative, digitsOn) := splitSign rest
        let digits := digitsOn.takeWhile Char.isDigit
        let power : Int := decimalValue digits
        if digits.isEmpty then none
        else some (some (if negative then -power else power), digitsOn.dropWhile Char.isDigit)
      else some (none, chars)
  | [] => some (none, [])

/-- The minus sign in front of a number, and what follows it. -/
def splitMinus : List Char → Bool × List Char
  | '-' :: rest => (true, rest)
  | chars => (false, chars)

/-- The digits behind a point, if there is a point, and what follows them. -/
def splitFraction : List Char → Option (List Char) × List Char
  | '.' :: rest => (some (rest.takeWhile Char.isDigit), rest.dropWhile Char.isDigit)
  | chars => (none, chars)

/-- The digits of a number are as they must be: some before the point and no zero
in front of others, and some behind a point. -/
def areNumeral (whole : List Char) (fraction? : Option (List Char)) : Bool :=
  !whole.isEmpty && !(whole.length > 1 && whole.head? == some '0') && fraction? != some []

/-- The number with these parts.  It is whole when it has neither a point nor an
exponent and fits 64 bits. -/
def numberDraft (negative : Bool) (whole : List Char) (fraction? : Option (List Char))
    (power? : Option Int) : Draft :=
  let value := decimalValue whole
  if fraction?.isNone && power?.isNone && !negative && value ≤ largestWord then .integer value
  else if fraction?.isNone && power?.isNone && negative && 0 < value
      && value ≤ 0x8000000000000000 then .integer (-(value : Int))
  else
    match scaledDouble? whole (fraction?.getD []) (power?.getD 0) with
    | some value => .float (if negative then -value else value)
    | none => .unusable

/-- Read a number, from its sign or first digit on. -/
def readNumber (chars : List Char) : Draft × List Char :=
  let (negative, unsigned) := splitMinus chars
  let whole := unsigned.takeWhile Char.isDigit
  let (fraction?, afterFraction) := splitFraction (unsigned.dropWhile Char.isDigit)
  if !areNumeral whole fraction? then (.broken, [])
  else
    match readPower afterFraction with
    | none => (.broken, [])
    | some (power?, rest) => (numberDraft negative whole fraction? power?, rest)

/-- Read one of the three words or a number. -/
def readScalar : List Char → Draft × List Char
  | 'n' :: 'u' :: 'l' :: 'l' :: rest => (.null, rest)
  | 't' :: 'r' :: 'u' :: 'e' :: rest => (.bool true, rest)
  | 'f' :: 'a' :: 'l' :: 's' :: 'e' :: rest => (.bool false, rest)
  | char :: rest =>
      if char == '-' || char.isDigit then readNumber (char :: rest) else (.broken, [])
  | [] => (.broken, [])

/-- How deeply arrays and objects may be nested in a value that is used. -/
def depthLimit : Nat := 127

/-- Read what stands behind an opening sign: nothing when the closing one follows, and
otherwise what `read` finds. -/
def readInside {α : Type} (closing : Char) (read : List Char → List α × Bool × List Char)
    (chars : List Char) : List α × Bool × List Char :=
  match skipSpace chars with
  | char :: rest => if char = closing then ([], true, rest) else read chars
  | [] => read chars

/-- What an array or an object is read as, with its items or members and whether it
was closed: nothing that can be used when too many others are around it. -/
def enclosed {α : Type} (wrap : List α → Bool → Draft) (depth : Nat)
    (found : List α × Bool × List Char) : Draft × List Char :=
  let (inside, closed, rest) := found
  if closed && depth ≥ depthLimit then (.unusable, rest) else (wrap inside closed, rest)

theorem enclosed_of_lt {α : Type} {depth : Nat} (allowed : depth < depthLimit)
    (wrap : List α → Bool → Draft) (inside : List α) (closed : Bool) (rest : List Char) :
    enclosed wrap depth (inside, closed, rest) = (wrap inside closed, rest) := by
  simp [enclosed, Nat.not_le_of_lt allowed]

mutual

/-- Read a value and give the rest of the text.  `depth` counts the arrays and
objects around it. -/
def readValue : (fuel depth : Nat) → List Char → Draft × List Char
  | 0, _, _ => (.broken, [])
  | fuel + 1, depth, chars =>
      match skipSpace chars with
      | '"' :: rest =>
          match readText rest with
          | none => (.broken, [])
          | some (some found, later) => (.text (String.ofList found), later)
          | some (none, later) => (.unusable, later)
      | '[' :: rest =>
          enclosed .array depth (readInside ']' (readItems fuel (depth + 1)) rest)
      | '{' :: rest =>
          enclosed .object depth (readInside '}' (readMembers fuel (depth + 1)) rest)
      | scalar => readScalar scalar

/-- Read the items of an array, one at least, up to and with its bracket. -/
def readItems : (fuel depth : Nat) → List Char → List Draft × Bool × List Char
  | 0, _, _ => ([], false, [])
  | fuel + 1, depth, chars =>
      let (item, afterItem) := readValue fuel depth chars
      if !item.isWhole then ([item], false, [])
      else
        match skipSpace afterItem with
        | ']' :: rest => ([item], true, rest)
        | ',' :: rest =>
            let (items, closed, later) := readItems fuel depth rest
            (item :: items, closed, later)
        | _ => ([item], false, [])

/-- Read the members of an object, one at least, up to and with its brace. -/
def readMembers : (fuel depth : Nat) → List Char → List (Option String × Draft) × Bool × List Char
  | 0, _, _ => ([], false, [])
  | fuel + 1, depth, chars =>
      match skipSpace chars with
      | '"' :: rest =>
          match readText rest with
          | some (found, afterName) =>
              let name? := found.map String.ofList
              match skipSpace afterName with
              | ':' :: valueOn =>
                  let (value, afterValue) := readValue fuel depth valueOn
                  let member := (name?, value)
                  if !value.isWhole then ([member], false, [])
                  else
                    match skipSpace afterValue with
                    | '}' :: later => ([member], true, later)
                    | ',' :: more =>
                        let (members, closed, later) := readMembers fuel depth more
                        (member :: members, closed, later)
                    | _ => ([member], false, [])
              | _ => ([(name?, .broken)], false, [])
          | none => ([], false, [])
      | _ => ([], false, [])

end

namespace Draft

/-- Read one value from the front of a text. -/
def read (text : String) : Draft × List Char :=
  let chars := text.toList
  readValue (chars.length + 1) 0 chars

end Draft

namespace Value

/-- The value of a text that is wholly JSON, with members as they are written. -/
def parse? (text : String) : Option Value :=
  let (draft, rest) := Draft.read text
  if (skipSpace rest).isEmpty then draft.value? else none

end Value

end PublicSite.Json
