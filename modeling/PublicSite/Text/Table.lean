import PublicSite.Text.Pieces
import PublicSite.Text.Ascii

/-!
# Tables of characters

A property of characters is written as a text of entries with spaces or line
ends between them.  An entry names one code point or a range, in hexadecimal, and may go on
with a mark and a payload:

* `41-5a+61` maps the range onto the range that starts at the payload;
* `100-12e*101` does so for every second code point of the range;
* `a0=20` gives all of the range one payload, which may be a word or a run of
  code points with dots between them.

Entries stand in increasing order and do not overlap, so one binary search
answers what a table says of a code point.
-/

namespace PublicSite.Text

/-- How the payload of an entry is meant. -/
inductive EntryKind where
  /-- The payload stands for every code point of the range. -/
  | constant
  /-- The range is shifted onto the payload. -/
  | shifted
  /-- Every second code point of the range is shifted onto the payload. -/
  | alternating
  deriving DecidableEq, Repr, Inhabited

/-- One entry of a table. -/
structure Entry where
  first : Nat
  last : Nat
  kind : EntryKind
  payload : List Char
  deriving Repr, Inhabited

/-- The value of hexadecimal digits. -/
def hexNumber (digits : List Char) : Nat :=
  digits.foldl (fun value digit => value * 16 + (hexValue? digit).getD 0) 0

/-- Read an entry. -/
def Entry.read (chars : List Char) : Entry :=
  let isHex := fun char => (hexValue? char).isSome
  let first := hexNumber (chars.takeWhile isHex)
  let (last, marked) := match chars.dropWhile isHex with
    | '-' :: rest => (hexNumber (rest.takeWhile isHex), rest.dropWhile isHex)
    | rest => (first, rest)
  match marked with
  | '+' :: payload => ⟨first, last, .shifted, payload⟩
  | '*' :: payload => ⟨first, last, .alternating, payload⟩
  | '=' :: payload => ⟨first, last, .constant, payload⟩
  | _ => ⟨first, last, .constant, []⟩

/-- A table as it is searched. -/
abbrev Table := Array Entry

/-- Read a table. -/
def Table.ofText (text : String) : Table :=
  ((fields (fun char => char == ' ' || char == '\n') text.toList).map Entry.read).toArray

/-- Search the entries from `low` up to but not with `high`. -/
def Table.searchBetween (table : Table) (code low high : Nat) : Option Entry :=
  if low < high then
    let middle := (low + high) / 2
    match table[middle]? with
    | none => none
    | some entry =>
        if code < entry.first then Table.searchBetween table code low middle
        else if entry.last < code then Table.searchBetween table code (middle + 1) high
        else some entry
  else none
termination_by high - low

/-- The entry for a code point. -/
def Table.entry? (table : Table) (code : Nat) : Option Entry :=
  table.searchBetween code 0 table.size

/-- A table says something of a character. -/
def Table.holds (table : Table) (char : Char) : Bool :=
  (table.entry? char.toNat).isSome

/-- The word that a table gives a character. -/
def Table.word? (table : Table) (char : Char) : Option String :=
  (table.entry? char.toNat).map fun entry => String.ofList entry.payload

/-- The characters that a table maps a character to. -/
def Table.mapped? (table : Table) (char : Char) : Option (List Char) :=
  match table.entry? char.toNat with
  | none => none
  | some entry =>
      let offset := char.toNat - entry.first
      match entry.kind with
      | .constant =>
          some ((fields (· == '.') entry.payload).map fun code => Char.ofNat (hexNumber code))
      | .shifted => some [Char.ofNat (hexNumber entry.payload + offset)]
      | .alternating =>
          if offset % 2 = 0 then some [Char.ofNat (hexNumber entry.payload + offset)] else none

end PublicSite.Text
