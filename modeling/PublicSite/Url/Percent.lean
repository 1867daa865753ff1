import PublicSite.Text.Utf8
import PublicSite.Text.Ascii

/-!
# Percent encoding

A byte is written as a percent sign and two capital hexadecimal digits.  Which
characters are written so depends on the part of the address; control characters
and everything beyond ASCII always are.  Decoding leaves a percent sign that two
digits do not follow as it is.
-/

namespace PublicSite.Url

open PublicSite.Text

/-- One byte, encoded. -/
def percentByte (byte : UInt8) : List Char :=
  ['%', upperHexDigit (byte.toNat / 16), upperHexDigit (byte.toNat % 16)]

/-- A character, encoded. -/
def percentChar (char : Char) : List Char :=
  (Utf8.encode [char]).flatMap percentByte

/-- Control characters and characters beyond ASCII. -/
def isControl (char : Char) : Bool :=
  char.toNat < 0x20 || char.toNat > 0x7E

/-- What is encoded in a fragment. -/
def inFragmentSet (char : Char) : Bool :=
  isControl char || " \"<>`".toList.contains char

/-- What is encoded in the query of an address whose scheme is not special. -/
def inQuerySet (char : Char) : Bool :=
  isControl char || " \"#<>".toList.contains char

/-- What is encoded in the query of an address whose scheme is special. -/
def inSpecialQuerySet (char : Char) : Bool :=
  inQuerySet char || char == '\''

/-- What is encoded in a path. -/
def inPathSet (char : Char) : Bool :=
  inFragmentSet char || "#?\x7b\x7d".toList.contains char

/-- What is encoded in a user name or password. -/
def inUserSet (char : Char) : Bool :=
  inPathSet char || "/:;=@[\\]^|".toList.contains char

/-- A text with the characters of a set encoded. -/
def percentEncode (inSet : Char → Bool) (chars : List Char) : List Char :=
  chars.flatMap fun char => if inSet char then percentChar char else [char]

/-- The bytes of an encoded text, given as bytes. -/
def percentDecodeBytes : List UInt8 → List UInt8
  | [] => []
  | byte :: high :: low :: rest =>
      match byte == 37, hexValue? (Char.ofNat high.toNat), hexValue? (Char.ofNat low.toNat) with
      | true, some highValue, some lowValue =>
          UInt8.ofNat (highValue * 16 + lowValue) :: percentDecodeBytes rest
      | _, _, _ => byte :: percentDecodeBytes (high :: low :: rest)
  | byte :: rest => byte :: percentDecodeBytes rest

/-- The bytes of an encoded text. -/
def percentDecode (chars : List Char) : List UInt8 :=
  percentDecodeBytes (Utf8.encode chars)

end PublicSite.Url
