import PublicSite.Text.Ascii
import PublicSite.Text.Pieces

/-!
# Media types

A media type is two tokens with a slash between them and perhaps parameters.  A
type is JSON when it is `application/json` or ends in `+json`.
-/

namespace PublicSite.Http

open PublicSite.Text

/-- A character of a token. -/
def isTokenChar (char : Char) : Bool :=
  char.isAlphanum || "!#$%&'*+-.^_`|~".toList.contains char

/-- A token. -/
def isToken (chars : List Char) : Bool :=
  !chars.isEmpty && chars.all isTokenChar

/-- A character that may stand between quotation marks. -/
def isQuotedChar (char : Char) : Bool :=
  0x20 ≤ char.toNat && char.toNat < 0x7F

/-- The text behind the name of a parameter and its equals sign. -/
def afterName? (chars : List Char) : Option (List Char) :=
  match splitOnce? (· == '=') chars with
  | some (name, rest) => if isToken name then some rest else none
  | none => none

/-- The text behind a quoted value, given without its opening mark, and behind the
semicolon that may follow it.  A value holds at least one character. -/
def afterQuoted? : List Char → Option (List Char)
  | [] => none
  | first :: rest =>
      match splitOnce? (· == '"') rest with
      | none => none
      | some (inside, after) =>
          if (first :: inside).all isQuotedChar then
            match after.dropWhile (· == ' ') with
            | [] => some []
            | ';' :: later => some later
            | _ => none
          else none

/-- The text behind the value of a parameter and the semicolon that may follow it.
Only the last value may be empty. -/
def afterValue? : List Char → Option (List Char)
  | '"' :: rest => afterQuoted? rest
  | chars =>
      match splitOnce? (· == ';') chars with
      | none => if chars.all isTokenChar then some [] else none
      | some (value, later) => if isToken value then some later else none

/-- Parameters with semicolons between them, and spaces before each; every one
takes at least one character, so a fuel above the length is never used up. -/
def areParameters : (fuel : Nat) → List Char → Bool
  | 0, _ => false
  | fuel + 1, chars =>
      match chars.dropWhile (· == ' ') with
      | [] => true
      | parameter =>
          match (afterName? parameter).bind afterValue? with
          | some later => areParameters fuel later
          | none => false

/-- The two tokens of a media type, in lower case. -/
def mediaType? (chars : List Char) : Option (List Char × List Char) :=
  let parameters := (startingAt (· == ';') chars).drop 1
  match splitOnce? (· == '/') (before (· == ';') chars) with
  | some (kind, subtype) =>
      if isToken kind && isToken subtype && areParameters (chars.length + 1) parameters then
        some (asciiLower kind, asciiLower subtype)
      else none
  | none => none

/-- A subtype before and after its last plus sign, which must not come first. -/
def splitSuffix (subtype : List Char) : List Char × List Char :=
  match splitOnce? (· == '+') subtype.reverse with
  | some (suffix, base) => if base.isEmpty then (subtype, []) else (base.reverse, suffix.reverse)
  | none => (subtype, [])

/-- A media type is JSON. -/
def isJsonType (text : String) : Bool :=
  match mediaType? text.toList with
  | none => false
  | some (kind, subtype) =>
      let (base, suffix) := splitSuffix subtype
      kind == "application".toList && (base == "json".toList || suffix == "json".toList)

end PublicSite.Http
