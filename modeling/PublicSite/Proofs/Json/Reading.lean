import Mathlib.Tactic.SplitIfs
import PublicSite.Json.Printer
import PublicSite.Json.Reader

/-!
# Reading what was printed

A printed value is read as a draft of that value, whatever follows it, as long as it is
not nested more deeply than a reader allows.  This is proved for values without numbers:
a double can be printed with more digits than are read again.
-/

namespace PublicSite.Json

open PublicSite.Text

/-! ## Texts -/

/-- What a character adds to the units that follow it. -/
def addUnit (char : Char) (later : Option (List TextUnit × List Char)) :
    Option (List TextUnit × List Char) :=
  later.map fun found => (.char char :: found.1, found.2)

theorem readUnits_letter {letter char : Char} (notHex : letter ≠ 'u')
    (escapes : letterEscape? letter = some char) (rest : List Char) :
    readUnits ('\\' :: letter :: rest) = addUnit char (readUnits rest) := by
  rw [readUnits, escapes]
  · cases readUnits rest <;> rfl
  · simp [notHex]

theorem hexWord?_control : ∀ code < 0x20,
    hexWord? '0' '0' (lowerHexDigit (code / 16)) (lowerHexDigit (code % 16)) = some code := by
  decide

theorem readUnits_control {char : Char} (control : char.toNat < 0x20) (rest : List Char) :
    readUnits ('\\' :: 'u' :: '0' :: '0' :: lowerHexDigit (char.toNat / 16)
      :: lowerHexDigit (char.toNat % 16) :: rest) = addUnit char (readUnits rest) := by
  have isChar : TextUnit.ofCode char.toNat = .char char := by
    rw [TextUnit.ofCode, if_neg (by omega), Char.ofNat_toNat]
  rw [readUnits, hexWord?_control char.toNat control]
  cases readUnits rest with
  | none => rfl
  | some found =>
      simp only [isChar]
      rfl

theorem readUnits_plain {char : Char} (notQuote : char ≠ '"') (notMark : char ≠ '\\')
    (notControl : ¬ char.toNat < 0x20) (rest : List Char) :
    readUnits (char :: rest) = addUnit char (readUnits rest) := by
  rw [readUnits]
  · simp [notControl, notMark, addUnit]
  · exact notQuote
  · simp [notMark]
  · simp [notMark]

/-- An escaped character is read as that character. -/
theorem readUnits_escapeChar (char : Char) (rest : List Char) :
    readUnits (escapeChar char ++ rest) = addUnit char (readUnits rest) := by
  unfold escapeChar
  split_ifs with quote mark backspace formFeed lineFeed carriageReturn tab control
  · subst quote
    exact readUnits_letter (by decide) rfl rest
  · subst mark
    exact readUnits_letter (by decide) rfl rest
  · subst backspace
    exact readUnits_letter (by decide) rfl rest
  · subst formFeed
    exact readUnits_letter (by decide) rfl rest
  · subst lineFeed
    exact readUnits_letter (by decide) rfl rest
  · subst carriageReturn
    exact readUnits_letter (by decide) rfl rest
  · subst tab
    exact readUnits_letter (by decide) rfl rest
  · exact readUnits_control control rest
  · exact readUnits_plain quote mark control rest

theorem readUnits_flatMap_escapeChar (chars rest : List Char) :
    readUnits (chars.flatMap escapeChar ++ '"' :: rest) = some (chars.map .char, rest) := by
  induction chars with
  | nil => rfl
  | cons char chars ih =>
      rw [List.flatMap_cons, List.append_assoc, readUnits_escapeChar, ih]
      rfl

theorem joinUnits?_map_char (chars : List Char) :
    joinUnits? (chars.map .char) = some chars := by
  induction chars with
  | nil => rfl
  | cons char chars ih => rw [List.map_cons, joinUnits?, ih, Option.map_some]

/-- A quoted text is read up to its closing quotation mark. -/
theorem readText_flatMap_escapeChar (chars rest : List Char) :
    readText (chars.flatMap escapeChar ++ '"' :: rest) = some (some chars, rest) := by
  rw [readText, readUnits_flatMap_escapeChar, Option.map_some, joinUnits?_map_char]

/-! ## Values -/

namespace Value

mutual

/-- A value without numbers in which arrays and objects are nested at most so deeply. -/
def IsPlain : (room : Nat) → Value → Prop
  | _, .integer _ => False
  | _, .float _ => False
  | 0, .array _ => False
  | 0, .object _ => False
  | room + 1, .array items => ArePlain room items
  | room + 1, .object members => HavePlain room members
  | _, _ => True

/-- `IsPlain` of each item. -/
def ArePlain (room : Nat) : List Value → Prop
  | [] => True
  | item :: rest => item.IsPlain room ∧ ArePlain room rest

/-- `IsPlain` of the value of each member. -/
def HavePlain (room : Nat) : List (String × Value) → Prop
  | [] => True
  | (_, value) :: rest => value.IsPlain room ∧ HavePlain room rest

end

/-- What a printed value begins with is neither a space nor the end of a list. -/
theorem exists_print_eq_cons {value : Value} {room : Nat} (plain : value.IsPlain room) :
    ∃ first rest, value.print = first :: rest ∧ isSpace first = false ∧ first ≠ ']' := by
  cases value with
  | null => exact ⟨'n', _, rfl, rfl, by decide⟩
  | bool value => cases value <;> exact ⟨_, _, rfl, rfl, by decide⟩
  | integer value => exact absurd plain (by simp [IsPlain])
  | float value => exact absurd plain (by simp [IsPlain])
  | text value => exact ⟨'"', _, rfl, rfl, by decide⟩
  | array items => exact ⟨'[', _, rfl, rfl, by decide⟩
  | object members => exact ⟨'{', _, rfl, rfl, by decide⟩

theorem print_pos {value : Value} {room : Nat} (plain : value.IsPlain room) :
    0 < value.print.length := by
  obtain ⟨first, rest, whole, _⟩ := exists_print_eq_cons plain
  simp [whole]

end Value

theorem skipSpace_cons {first : Char} (notSpace : isSpace first = false) (rest : List Char) :
    skipSpace (first :: rest) = first :: rest := by
  rw [skipSpace, List.dropWhile_cons_of_neg (by simp [notSpace])]

theorem isWhole_draft (value : Value) : value.draft.isWhole = true := by
  cases value <;> rfl

theorem isWhole_of_value? {draft : Draft} {value : Value} (found : draft.value? = some value) :
    draft.isWhole = true := by
  cases draft with
  | broken => exact nomatch found
  | array items closed | object items closed =>
      cases closed with
      | true => rfl
      | false => exact absurd found (by simp [Draft.value?])
  | _ => rfl

/-! ### One step of the reader -/

section

variable {fuel depth : Nat} {chars rest : List Char}

theorem quote_append (chars rest : List Char) :
    quote chars ++ rest = '"' :: (chars.flatMap escapeChar ++ '"' :: rest) := by
  simp [quote]

theorem readValue_quote (fuel depth : Nat) (text : String) (rest : List Char) :
    readValue (fuel + 1) depth (quote text.toList ++ rest) = (.text text, rest) := by
  rw [quote_append, readValue, skipSpace_cons (show isSpace '"' = false from rfl)]
  simp only [readText_flatMap_escapeChar, String.ofList_toList]

theorem readValue_noItems (allowed : depth < depthLimit) (rest : List Char) :
    readValue (fuel + 1) depth ('[' :: ']' :: rest) = (.array [] true, rest) := by
  rw [readValue, skipSpace_cons (show isSpace '[' = false from rfl)]
  simp [readInside, skipSpace_cons (show isSpace ']' = false from rfl), enclosed_of_lt allowed]

theorem readValue_noMembers (allowed : depth < depthLimit) (rest : List Char) :
    readValue (fuel + 1) depth ('{' :: '}' :: rest) = (.object [] true, rest) := by
  rw [readValue, skipSpace_cons (show isSpace '{' = false from rfl)]
  simp [readInside, skipSpace_cons (show isSpace '}' = false from rfl), enclosed_of_lt allowed]

/-- An array is read to its end unless too much is around it. -/
theorem readValue_items {items : List Draft} (allowed : depth < depthLimit)
    (notClosing : ∃ first later, chars = first :: later ∧ isSpace first = false ∧ first ≠ ']')
    (reads : readItems fuel (depth + 1) chars = (items, true, rest)) :
    readValue (fuel + 1) depth ('[' :: chars) = (.array items true, rest) := by
  obtain ⟨first, later, rfl, notSpace, notEnd⟩ := notClosing
  rw [readValue, skipSpace_cons (show isSpace '[' = false from rfl)]
  simp [readInside, skipSpace_cons notSpace, notEnd, reads, enclosed_of_lt allowed]

theorem readItems_last {item : Draft} (reads : readValue fuel depth chars = (item, ']' :: rest))
    (whole : item.isWhole = true) : readItems (fuel + 1) depth chars = ([item], true, rest) := by
  rw [readItems, reads]
  simp [whole, skipSpace_cons (show isSpace ']' = false from rfl)]

theorem readItems_more {item : Draft} {items : List Draft} {closed : Bool} {later : List Char}
    (reads : readValue fuel depth chars = (item, ',' :: rest)) (whole : item.isWhole = true)
    (others : readItems fuel depth rest = (items, closed, later)) :
    readItems (fuel + 1) depth chars = (item :: items, closed, later) := by
  rw [readItems, reads]
  simp [whole, skipSpace_cons (show isSpace ',' = false from rfl), others]

theorem readMembers_last {value : Draft}
    (reads : readValue fuel depth chars = (value, '}' :: rest)) (whole : value.isWhole = true)
    (name : String) :
    readMembers (fuel + 1) depth (quote name.toList ++ ':' :: chars) =
      ([(some name, value)], true, rest) := by
  rw [quote_append, readMembers, skipSpace_cons (show isSpace '"' = false from rfl)]
  simp [readText_flatMap_escapeChar, skipSpace_cons (show isSpace ':' = false from rfl), reads,
    whole, skipSpace_cons (show isSpace '}' = false from rfl)]

theorem readMembers_more {value : Draft} {members : List (Option String × Draft)} {closed : Bool}
    {later : List Char} (reads : readValue fuel depth chars = (value, ',' :: rest))
    (whole : value.isWhole = true) (others : readMembers fuel depth rest = (members, closed, later))
    (name : String) :
    readMembers (fuel + 1) depth (quote name.toList ++ ':' :: chars) =
      ((some name, value) :: members, closed, later) := by
  rw [quote_append, readMembers, skipSpace_cons (show isSpace '"' = false from rfl)]
  simp [readText_flatMap_escapeChar, skipSpace_cons (show isSpace ':' = false from rfl), reads,
    whole, skipSpace_cons (show isSpace ',' = false from rfl), others]

/-- An object is read to its end unless too much is around it. -/
theorem readValue_members {members : List (Option String × Draft)} (allowed : depth < depthLimit)
    (reads : readMembers fuel (depth + 1) ('"' :: chars) = (members, true, rest)) :
    readValue (fuel + 1) depth ('{' :: '"' :: chars) = (.object members true, rest) := by
  rw [readValue, skipSpace_cons (show isSpace '{' = false from rfl)]
  simp [readInside, skipSpace_cons (show isSpace '"' = false from rfl), reads,
    enclosed_of_lt allowed]

end

namespace Value

theorem print_array_append (items : List Value) (rest : List Char) :
    (array items).print ++ rest = '[' :: (printItems items ++ ']' :: rest) := by
  simp [print]

theorem print_object_append (members : List (String × Value)) (rest : List Char) :
    (object members).print ++ rest = '{' :: (printMembers members ++ '}' :: rest) := by
  simp [print]

theorem printItems_cons_cons (item second : Value) (others : List Value) :
    printItems (item :: second :: others) = item.print ++ ',' :: printItems (second :: others) :=
  rfl

theorem printMembers_cons_cons (name : String) (value : Value) (second : String × Value)
    (others : List (String × Value)) :
    printMembers ((name, value) :: second :: others) =
      quote name.toList ++ ':' :: (value.print ++ ',' :: printMembers (second :: others)) :=
  rfl

/-- Items are printed like a value as far as their beginning goes. -/
theorem exists_printItems_eq_cons {item : Value} {others : List Value} {room : Nat}
    (plain : item.IsPlain room) (rest : List Char) :
    ∃ first later, printItems (item :: others) ++ rest = first :: later ∧
      isSpace first = false ∧ first ≠ ']' := by
  obtain ⟨first, later, whole, notSpace, notEnd⟩ := exists_print_eq_cons plain
  cases others with
  | nil => exact ⟨first, later ++ rest, by simp [printItems, whole], notSpace, notEnd⟩
  | cons second others =>
      exact ⟨first, later ++ ',' :: printItems (second :: others) ++ rest,
        by simp [printItems_cons_cons, whole], notSpace, notEnd⟩

/-- Members begin with the name of the first one. -/
theorem exists_printMembers_eq_cons (member : String × Value) (others : List (String × Value))
    (rest : List Char) :
    ∃ later, printMembers (member :: others) ++ rest = '"' :: later := by
  cases others with
  | nil => exact ⟨_, rfl⟩
  | cons second others => exact ⟨_, rfl⟩

end Value

/-! ### All of it -/

open Value

mutual

/-- A printed value is read as it is, and nothing of what follows. -/
theorem readValue_print {value : Value} {room depth fuel : Nat} (plain : value.IsPlain room)
    (shallow : depth + room ≤ depthLimit) (enough : value.print.length ≤ fuel)
    (rest : List Char) : readValue fuel depth (value.print ++ rest) = (value.draft, rest) := by
  match value, room, fuel with
  | value, _, 0 => exact absurd (print_pos plain) (by omega)
  | .null, _, fuel + 1 => rfl
  | .bool true, _, fuel + 1 => rfl
  | .bool false, _, fuel + 1 => rfl
  | .text value, _, fuel + 1 => exact readValue_quote fuel depth value rest
  | .array [], room + 1, fuel + 1 =>
      rw [print_array_append]
      exact readValue_noItems (by omega) rest
  | .array (item :: others), room + 1, fuel + 1 =>
      simp only [print, List.length_append, List.length_cons] at enough
      have reads : readItems fuel (depth + 1) (printItems (item :: others) ++ ']' :: rest) =
          (draftItems (item :: others), true, rest) :=
        readItems_print (List.cons_ne_nil item others) plain (by omega) (by omega) rest
      rw [print_array_append]
      exact readValue_items (by omega) (exists_printItems_eq_cons plain.1 _) reads
  | .object [], room + 1, fuel + 1 =>
      rw [print_object_append]
      exact readValue_noMembers (by omega) rest
  | .object (member :: others), room + 1, fuel + 1 =>
      simp only [print, List.length_append, List.length_cons] at enough
      have reads : readMembers fuel (depth + 1) (printMembers (member :: others) ++ '}' :: rest) =
          (draftMembers (member :: others), true, rest) :=
        readMembers_print (List.cons_ne_nil member others) plain (by omega) (by omega) rest
      obtain ⟨later, whole⟩ := exists_printMembers_eq_cons member others ('}' :: rest)
      rw [whole] at reads
      rw [print_object_append, whole]
      exact readValue_members (by omega) reads

theorem readItems_print {items : List Value} {room depth fuel : Nat} (notEmpty : items ≠ [])
    (plain : ArePlain room items) (shallow : depth + room ≤ depthLimit)
    (enough : (printItems items).length < fuel) (rest : List Char) :
    readItems fuel depth (printItems items ++ ']' :: rest) = (draftItems items, true, rest) := by
  match items, fuel with
  | [], _ => exact absurd rfl notEmpty
  | _, 0 => exact absurd enough (Nat.not_lt_zero _)
  | [item], fuel + 1 =>
      rw [printItems] at enough ⊢
      exact readItems_last (readValue_print plain.1 shallow (by omega) _) (isWhole_draft item)
  | item :: second :: others, fuel + 1 =>
      have longer := print_pos plain.1
      rw [printItems_cons_cons, List.length_append, List.length_cons] at enough
      have later : readItems fuel depth (printItems (second :: others) ++ ']' :: rest) =
          (draftItems (second :: others), true, rest) :=
        readItems_print (List.cons_ne_nil second others) plain.2 shallow (by omega) rest
      rw [printItems_cons_cons, List.append_assoc, List.cons_append]
      exact readItems_more (readValue_print plain.1 shallow (by omega) _) (isWhole_draft item) later

theorem readMembers_print {members : List (String × Value)} {room depth fuel : Nat}
    (notEmpty : members ≠ []) (plain : HavePlain room members)
    (shallow : depth + room ≤ depthLimit) (enough : (printMembers members).length < fuel)
    (rest : List Char) :
    readMembers fuel depth (printMembers members ++ '}' :: rest) =
      (draftMembers members, true, rest) := by
  match members, fuel with
  | [], _ => exact absurd rfl notEmpty
  | _, 0 => exact absurd enough (Nat.not_lt_zero _)
  | [(name, value)], fuel + 1 =>
      rw [printMembers, List.length_append, List.length_cons] at enough
      rw [printMembers, List.append_assoc, List.cons_append]
      exact readMembers_last (readValue_print plain.1 shallow (by omega) _)
        (isWhole_draft value) name
  | (name, value) :: second :: others, fuel + 1 =>
      rw [printMembers_cons_cons] at enough ⊢
      simp only [List.length_append, List.length_cons] at enough
      have later : readMembers fuel depth (printMembers (second :: others) ++ '}' :: rest) =
          (draftMembers (second :: others), true, rest) :=
        readMembers_print (List.cons_ne_nil second others) plain.2 shallow (by omega) rest
      rw [List.append_assoc, List.cons_append, List.append_assoc, List.cons_append]
      exact readMembers_more (readValue_print plain.1 shallow (by omega) _)
        (isWhole_draft value) later name

end

/-- The text of a value is read as that value and to its end. -/
theorem Draft.read_compactText {value : Value} (plain : value.IsPlain depthLimit) :
    Draft.read value.compactText = (value.draft, []) := by
  have reads := readValue_print plain (Nat.le_of_eq (Nat.zero_add depthLimit))
    (Nat.le_succ value.print.length) []
  rw [List.append_nil] at reads
  rw [Draft.read, compactText, String.toList_ofList]
  exact reads

/-- The value of the text of a value is that value. -/
theorem Value.parse?_compactText {value : Value} (plain : value.IsPlain depthLimit) :
    parse? value.compactText = some value := by
  rw [parse?, Draft.read_compactText plain]
  simp [skipSpace, value?_draft]

end PublicSite.Json
