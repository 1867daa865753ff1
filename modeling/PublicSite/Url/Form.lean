import PublicSite.Url.Percent
import PublicSite.Url.Basic

/-!
# Query pairs

The form encoding of a query: names and values with an equals sign between them
and an ampersand between pairs.  Letters, digits and four marks stand for
themselves, a space is a plus sign, and every other byte is percent-encoded.
Reading is lenient: parts without an equals sign have an empty value, empty parts
are skipped, and bytes that are not UTF-8 become replacement characters.
-/

namespace PublicSite.Url

open PublicSite.Text

/-- A name and a value. -/
abbrev Pair := List Char × List Char

/-- A character that stands for itself in a form. -/
def isFormPlain (char : Char) : Bool :=
  char.isAlphanum || "*-._".toList.contains char

/-- A character in form encoding. -/
def formChar (char : Char) : List Char :=
  if isFormPlain char then [char] else if char = ' ' then ['+'] else percentChar char

/-- A name or value in form encoding. -/
def formEncode (chars : List Char) : List Char :=
  chars.flatMap formChar

/-- A pair in form encoding. -/
def formPair (pair : Pair) : List Char :=
  formEncode pair.1 ++ '=' :: formEncode pair.2

/-- Pairs in form encoding. -/
def formText (pairs : List Pair) : List Char :=
  join ['&'] (pairs.map formPair)

/-- Read a name or value. -/
def formDecode (chars : List Char) : List Char :=
  Utf8.decodeLossy (percentDecode (chars.map fun char => if char = '+' then ' ' else char))

/-- Read one pair. -/
def readFormPair (chars : List Char) : Pair :=
  match splitOnce? (· == '=') chars with
  | none => (formDecode chars, [])
  | some (name, value) => (formDecode name, formDecode value)

/-- Read the pairs of a query. -/
def formPairs (query : List Char) : List Pair :=
  (fields (· == '&') query).map readFormPair

/-- The pairs of a URL's query. -/
def pairs (url : Url) : List Pair :=
  formPairs (url.query.getD [])

/-- The URL with pairs added behind its query. -/
def appendPairs (url : Url) (added : List Pair) : Url :=
  let query := url.query.getD []
  let separator := if query.isEmpty || added.isEmpty then [] else ['&']
  { url with query := some (query ++ separator ++ formText added) }

/-- The URL with a query of these pairs only. -/
def withPairs (url : Url) (replacement : List Pair) : Url :=
  { url with query := some (formText replacement) }

end PublicSite.Url
