import PublicSite.Text.Normalization
import PublicSite.Url.Domain.Mapping
import PublicSite.Url.Domain.Property
import PublicSite.Url.Punycode

/-!
# Domain names

A domain name is brought into its ASCII form: letters become small, letters
beyond ASCII are mapped and normalized, and each label that still holds one is
written in Punycode.  A label that already is in Punycode must stand for a label
that this process would have accepted and left unchanged.

A name that is ASCII throughout and has no Punycode label only has its letters
made small; all the tables are for the others.
-/

namespace PublicSite.Url.Domain

open PublicSite.Text

/-- The characters that may stand in a domain name. -/
def validTable : Table := Table.ofText validEntries

/-- The characters that are dropped. -/
def ignoredTable : Table := Table.ofText ignoredEntries

/-- The characters that are read as others. -/
def mappedTable : Table := Table.ofText mappedEntries

/-- The bidirectional classes other than left-to-right. -/
def directionTable : Table := Table.ofText directionEntries

/-- The combining marks. -/
def markTable : Table := Table.ofText markEntries

/-- The joining types. -/
def joiningTable : Table := Table.ofText joiningEntries

/-- A character is ASCII. -/
def isAscii (char : Char) : Bool :=
  char.toNat < 0x80

/-- An ASCII character that no domain name may hold: the control characters, the
space, and those that delimit the parts of an address. -/
def isForbidden (char : Char) : Bool :=
  char.toNat ≤ 0x20 || char.toNat == 0x7F || "%#/:<>?@[\\]^|".toList.contains char

/-- What a character is read as; nothing when it is refused. -/
def mapChar? (char : Char) : Option (List Char) :=
  if isAscii char then some [char.toLower]
  else if validTable.holds char then some [char]
  else if ignoredTable.holds char then some []
  else mappedTable.mapped? char

/-- What a name is read as, in normalization form C. -/
def map? (chars : List Char) : Option (List Char) :=
  (chars.mapM mapChar?).map fun parts => normalizeC parts.flatten

/-- The labels of a name. -/
def labels (chars : List Char) : List (List Char) :=
  pieces (· == '.') chars

/-- The bidirectional class of a character. -/
def directionClass (char : Char) : String :=
  (directionTable.word? char).getD "L"

/-- A name with such a character must follow the rule on writing directions. -/
def isRightToLeft (char : Char) : Bool :=
  let direction := directionClass char
  direction == "R" || direction == "AL" || direction == "AN"

/-- The rule on writing directions for one label (RFC 5893, section 2). -/
def followsDirectionRule (label : List Char) : Bool :=
  let classes := label.map directionClass
  let last := (classes.reverse.dropWhile (· == "NSM")).head?
  match classes with
  | [] => true
  | first :: _ =>
      if first == "R" || first == "AL" then
        classes.all (["R", "AL", "AN", "EN", "ES", "CS", "ET", "ON", "BN", "NSM"].contains ·)
          && (last.map (["R", "AL", "EN", "AN"].contains ·)).getD false
          && !(classes.contains "EN" && classes.contains "AN")
      else if first == "L" then
        classes.all (["L", "EN", "ES", "CS", "ET", "ON", "BN", "NSM"].contains ·)
          && (last.map (["L", "EN"].contains ·)).getD false
      else false

/-- The first joining type that is not transparent is one of some types. -/
def joins (types : List String) (chars : List Char) : Bool :=
  match (chars.map fun char => (joiningTable.word? char).getD "U").dropWhile (· == "T") with
  | [] => false
  | first :: _ => types.contains first

/-- Every joiner of a label stands where its script needs one (RFC 5892,
appendix A).  `before` holds the characters already passed, in reverse. -/
def joinersStandWell (before : List Char) : List Char → Bool
  | [] => true
  | char :: after =>
      let afterVirama := (before.head?.map fun last => combiningClass last == 9).getD false
      let standsWell :=
        if char.toNat = 0x200C then
          afterVirama || (joins ["L", "D"] before && joins ["R", "D"] after)
        else if char.toNat = 0x200D then afterVirama
        else true
      standsWell && joinersStandWell (char :: before) after

/-- The mark of a label in Punycode. -/
def punycodeMark : List Char := "xn--".toList

/-- A character that is read as itself. -/
def isKept (char : Char) : Bool :=
  mapChar? char == some [char]

/-- A label that may stand in a name (UTS 46, section 4.1): its characters are read as
themselves, it is in normalization form C, it does not begin with a mark or with the
sign of Punycode, and its joiners stand well. -/
def isValidLabel (label : List Char) : Bool :=
  label.all isKept
    && normalizeC label == label
    && !((label.head?.map markTable.holds).getD false)
    && !punycodeMark.isPrefixOf label
    && joinersStandWell [] label

/-- The label that a mapped label stands for, which is the label itself unless it
is in Punycode. -/
def decodeLabel? (label : List Char) : Option (List Char) :=
  if punycodeMark.isPrefixOf label then
    match Punycode.decode? (label.drop 4) with
    | none => none
    | some decoded =>
        if isValidLabel decoded && !decoded.all isAscii then some decoded else none
  else if isValidLabel label then some label
  else none

/-- A label in ASCII. -/
def encodeLabel (label : List Char) : List Char :=
  if label.all isAscii then label else punycodeMark ++ Punycode.encode label

/-- A name is ASCII and has no label in Punycode. -/
def isPlain (chars : List Char) : Bool :=
  chars.all isAscii && !(labels (asciiLower chars)).any punycodeMark.isPrefixOf

/-- A name in its ASCII form, without regard to forbidden characters. -/
def asciiForm? (chars : List Char) : Option (List Char) :=
  if isPlain chars then some (asciiLower chars)
  else do
    let mapped ← map? chars
    let decoded ← (labels mapped).mapM decodeLabel?
    if decoded.any (·.any isRightToLeft) && !decoded.all followsDirectionRule then none
    else some (join ['.'] (decoded.map encodeLabel))

/-- A name in its ASCII form; nothing when it is no domain name. -/
def toAscii? (chars : List Char) : Option (List Char) :=
  match asciiForm? chars with
  | none => none
  | some name => if name.any isForbidden then none else some name

end PublicSite.Url.Domain
