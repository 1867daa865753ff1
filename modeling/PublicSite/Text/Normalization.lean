import PublicSite.Text.Table
import PublicSite.Text.Normalization.Decomposition
import PublicSite.Text.Normalization.CombiningClass

/-!
# Normalization form C

A text is decomposed, the combining characters behind each starter are put into
the order of their classes, and pairs are composed again.  Hangul syllables are
decomposed and composed by arithmetic.
-/

namespace PublicSite.Text

/-- The characters with a canonical decomposition. -/
def decompositionTable : Table :=
  Table.ofText decompositionEntries

/-- The characters that composition gives back. -/
def composedTable : Table :=
  Table.ofText composedEntries

/-- The characters whose combining class is not zero. -/
def combiningClassTable : Table :=
  Table.ofText combiningClassEntries

/-- The canonical combining class of a character. -/
def combiningClass (char : Char) : Nat :=
  match combiningClassTable.entry? char.toNat with
  | none => 0
  | some entry => hexNumber entry.payload

/-- The parts of a Hangul syllable. -/
def decomposeHangul? (char : Char) : Option (List Char) :=
  let code := char.toNat
  if 0xAC00 ≤ code ∧ code < 0xAC00 + 11172 then
    let index := code - 0xAC00
    let lead := Char.ofNat (0x1100 + index / 588)
    let vowel := Char.ofNat (0x1161 + index % 588 / 28)
    if index % 28 = 0 then some [lead, vowel]
    else some [lead, vowel, Char.ofNat (0x11A7 + index % 28)]
  else none

/-- The characters that a character decomposes into.  `depth` bounds how often
the first part may decompose again; no character needs more than four. -/
def decomposeChar : (depth : Nat) → Char → List Char
  | 0, char => [char]
  | depth + 1, char =>
      if char.toNat < 0xC0 then [char]
      else
        match decomposeHangul? char with
        | some parts => parts
        | none =>
            match decompositionTable.mapped? char with
            | none => [char]
            | some parts => parts.flatMap (decomposeChar depth)

/-- Put a character behind those of a lower or equal class, back to the last
starter.  The text is held in reverse. -/
def insertByClass (char : Char) : List Char → List Char
  | [] => [char]
  | last :: earlier =>
      if combiningClass char < combiningClass last then last :: insertByClass char earlier
      else char :: last :: earlier

/-- The text in canonical order, given and held in reverse. -/
def appendOrdered (reversed : List Char) (char : Char) : List Char :=
  if combiningClass char = 0 then char :: reversed else insertByClass char reversed

/-- The canonical decomposition of a text. -/
def decompose (chars : List Char) : List Char :=
  ((chars.flatMap (decomposeChar 8)).foldl appendOrdered []).reverse

/-- The pairs that compose, with their compositions. -/
def compositionPairs : List ((Char × Char) × Char) :=
  composedTable.toList.flatMap fun entry =>
    (List.range (entry.last + 1 - entry.first)).filterMap fun offset =>
      let char := Char.ofNat (entry.first + offset)
      match decompositionTable.mapped? char with
      | some [first, second] => some ((first, second), char)
      | _ => none

/-- The composition of two characters, when they compose. -/
def composePair? (first second : Char) : Option Char :=
  let a := first.toNat
  let b := second.toNat
  if 0x1100 ≤ a ∧ a < 0x1113 ∧ 0x1161 ≤ b ∧ b < 0x1176 then
    some (Char.ofNat (0xAC00 + ((a - 0x1100) * 21 + (b - 0x1161)) * 28))
  else if 0xAC00 ≤ a ∧ a < 0xAC00 + 11172 ∧ (a - 0xAC00) % 28 = 0 ∧ 0x11A8 ≤ b ∧ b < 0x11C3 then
    some (Char.ofNat (a + (b - 0x11A7)))
  else if b < 0x300 then none
  else (compositionPairs.find? fun pair => pair.1.1 == first && pair.1.2 == second).map Prod.snd

/-- Compose a decomposed text.  `starter` is the character that later ones may
join, `lastClass` the class of the last character that stands behind it, and
`behind` those characters in reverse. -/
def composeFrom (starter : Char) (behind : List Char) (lastClass : Nat) :
    List Char → List Char
  | [] => starter :: behind.reverse
  | char :: rest =>
      let charClass := combiningClass char
      let blocked := !behind.isEmpty && (lastClass == 0 || charClass ≤ lastClass)
      match (if blocked then none else composePair? starter char) with
      | some joined => composeFrom joined behind lastClass rest
      | none =>
          if charClass = 0 then starter :: behind.reverse ++ composeFrom char [] 0 rest
          else composeFrom starter (char :: behind) charClass rest

/-- Compose a decomposed text from its first starter on. -/
def compose : List Char → List Char
  | [] => []
  | char :: rest =>
      if combiningClass char = 0 then composeFrom char [] 0 rest else char :: compose rest

/-- The text in normalization form C.  A text of characters below U+0300 is in
that form already. -/
def normalizeC (chars : List Char) : List Char :=
  if chars.all fun char => char.toNat < 0x300 then chars else compose (decompose chars)

end PublicSite.Text
