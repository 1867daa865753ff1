import PublicSite.Proofs.Json.Reading
import PublicSite.Proofs.Markup.Rendering
import PublicSite.Seo.Schema

/-!
# Guarded texts

Putting a backslash into what could end a script leaves nothing that ends one, and it
changes nothing of what a JSON text says.  The sign that it is put behind stands only
inside the texts of a JSON text, and there an escaped slash is read as a slash.
-/

namespace PublicSite.Seo

open PublicSite.Json PublicSite.Markup PublicSite.Decimal PublicSite.Text

/-! ## One character at a time -/

theorem head?_guardClosing (chars : List Char) :
    (guardClosing chars).head? = chars.head? := by
  fun_cases guardClosing chars <;> rfl

theorem guardClosing_cons_of_not {char : Char} {rest : List Char}
    (closesNothing : ¬ (char = '<' ∧ rest.head? = some '/')) :
    guardClosing (char :: rest) = char :: guardClosing rest := by
  rw [guardClosing]
  rintro others rfl rfl
  exact closesNothing ⟨rfl, rfl⟩

theorem guardClosing_cons {char : Char} (notSign : char ≠ '<') (rest : List Char) :
    guardClosing (char :: rest) = char :: guardClosing rest :=
  guardClosing_cons_of_not fun closes => notSign closes.1

/-- The first character stays where it is. -/
theorem exists_guardClosing_cons (char : Char) (rest : List Char) :
    ∃ more, guardClosing (char :: rest) = char :: more :=
  List.head?_eq_some_iff.mp (head?_guardClosing (char :: rest))

/-- A guarded text begins with a character only when the text does. -/
theorem guardClosing_ne_cons {char : Char} {chars : List Char}
    (beginsOtherwise : ∀ rest, chars ≠ char :: rest) (later : List Char) :
    guardClosing chars ≠ char :: later := by
  intro begins
  have same : chars.head? = some char := by
    rw [← head?_guardClosing, begins]
    rfl
  obtain ⟨rest, isCons⟩ := List.head?_eq_some_iff.mp same
  exact beginsOtherwise rest isCons

/-- A guarded text does not hold what ends a script. -/
theorem scriptEnd_not_infix_guardClosing (chars : List Char) :
    ¬ scriptEnd <:+: guardClosing chars := by
  induction chars using guardClosing.induct with
  | case1 rest ih =>
      rw [guardClosing]
      simpa [scriptEnd, List.infix_cons_iff] using ih
  | case2 char rest notEnd ih =>
      have kept : guardClosing (char :: rest) = char :: guardClosing rest := by
        rw [guardClosing]
        exact notEnd
      rw [kept, List.infix_cons_iff, not_or]
      refine ⟨?_, ih⟩
      rintro ⟨behind, whole⟩
      obtain ⟨sign, slash⟩ := List.cons.inj whole
      have restSlash : rest.head? = some '/' := by
        rw [← head?_guardClosing, ← slash]
        rfl
      obtain ⟨others, restEq⟩ := List.head?_eq_some_iff.mp restSlash
      exact notEnd others sign.symm restEq
  | case3 => decide

section

variable {passes : Char → Bool} (stops : passes '<' = false) (chars : List Char)

include stops

theorem takeWhile_guardClosing :
    (guardClosing chars).takeWhile passes = chars.takeWhile passes := by
  induction chars with
  | nil => rfl
  | cons char rest ih =>
      by_cases sign : char = '<'
      · subst sign
        obtain ⟨more, same⟩ := exists_guardClosing_cons '<' rest
        rw [same, List.takeWhile_cons, List.takeWhile_cons, stops]
        rfl
      · rw [guardClosing_cons sign, List.takeWhile_cons, List.takeWhile_cons, ih]

theorem dropWhile_guardClosing :
    (guardClosing chars).dropWhile passes = guardClosing (chars.dropWhile passes) := by
  induction chars with
  | nil => rfl
  | cons char rest ih =>
      by_cases sign : char = '<'
      · subst sign
        obtain ⟨more, same⟩ := exists_guardClosing_cons '<' rest
        simp [same, stops]
      · rw [guardClosing_cons sign, List.dropWhile_cons, List.dropWhile_cons, ih]
        split
        · rfl
        · rw [guardClosing_cons sign]

end

theorem skipSpace_guardClosing (chars : List Char) :
    skipSpace (guardClosing chars) = guardClosing (skipSpace chars) :=
  dropWhile_guardClosing (show isSpace '<' = false from rfl) chars

theorem ne_sign_of_hexValue? {char : Char} {worth : Nat} (hex : hexValue? char = some worth) :
    char ≠ '<' := by
  rintro rfl
  exact nomatch hex

theorem ne_signs_of_hexWord? {a b c d : Char} {code : Nat} (hex : hexWord? a b c d = some code) :
    a ≠ '<' ∧ b ≠ '<' ∧ c ≠ '<' ∧ d ≠ '<' := by
  simp only [hexWord?, Option.bind_eq_bind, Option.bind_eq_some_iff] at hex
  obtain ⟨_, first, _, second, _, third, _, fourth, -⟩ := hex
  exact ⟨ne_sign_of_hexValue? first, ne_sign_of_hexValue? second, ne_sign_of_hexValue? third,
    ne_sign_of_hexValue? fourth⟩

theorem ne_of_letterEscape? {letter char : Char} (escapes : letterEscape? letter = some char) :
    letter ≠ 'u' ∧ letter ≠ '<' := by
  constructor
  all_goals
    rintro rfl
    exact nomatch escapes

/-- The backslash in front of a slash is no character of the text. -/
theorem readUnits_guardClosing_cons {char : Char} (notQuote : char ≠ '"') (notMark : char ≠ '\\')
    (notControl : ¬ char.toNat < 0x20) (rest : List Char) :
    readUnits (guardClosing (char :: rest)) = addUnit char (readUnits (guardClosing rest)) := by
  by_cases sign : char = '<' ∧ rest.head? = some '/'
  · obtain ⟨rfl, begins⟩ := sign
    obtain ⟨others, rfl⟩ := List.head?_eq_some_iff.mp begins
    have slash : readUnits ('\\' :: '/' :: guardClosing others) =
        readUnits ('/' :: guardClosing others) := by
      rw [readUnits_letter (by decide) rfl, readUnits_plain (by decide) (by decide) (by decide)]
    rw [guardClosing, readUnits_plain notQuote notMark notControl, slash,
      guardClosing_cons (show '/' ≠ '<' by decide)]
  · rw [guardClosing_cons_of_not sign, readUnits_plain notQuote notMark notControl]

/-- A text that can be read is read the same when it is guarded. -/
theorem readUnits_guardClosing {chars rest : List Char} {units : List TextUnit}
    (reads : readUnits chars = some (units, rest)) :
    readUnits (guardClosing chars) = some (units, guardClosing rest) := by
  fun_induction readUnits chars generalizing units rest with
  | case1 | case4 | case6 | case7 => exact nomatch reads
  | case2 later =>
      cases reads
      rfl
  | case3 a b c d others code inner later found hex ih =>
      cases reads
      obtain ⟨first, second, third, fourth⟩ := ne_signs_of_hexWord? hex
      rw [guardClosing_cons (by decide), guardClosing_cons (by decide), guardClosing_cons first,
        guardClosing_cons second, guardClosing_cons third, guardClosing_cons fourth, readUnits,
        hex, ih found]
  | case5 letter others _ char inner later found escapes ih =>
      cases reads
      obtain ⟨notHex, notSign⟩ := ne_of_letterEscape? escapes
      rw [guardClosing_cons (by decide), guardClosing_cons notSign,
        readUnits_letter notHex escapes, ih found]
      rfl
  | case8 char others notQuote _ _ plain ih =>
      obtain ⟨notControl, notMark⟩ : ¬ char.toNat < 0x20 ∧ char ≠ '\\' := by simpa using plain
      obtain ⟨⟨inner, later⟩, found, same⟩ := Option.map_eq_some_iff.mp reads
      cases same
      rw [readUnits_guardClosing_cons notQuote notMark notControl, ih found]
      rfl

theorem readText_guardClosing {chars rest : List Char} {found : Option (List Char)}
    (reads : readText chars = some (found, rest)) :
    readText (guardClosing chars) = some (found, guardClosing rest) := by
  obtain ⟨⟨units, later⟩, read, same⟩ := Option.map_eq_some_iff.mp reads
  cases same
  rw [readText, readUnits_guardClosing read]
  rfl

/-! ## Numbers and words -/

/-- What was found, in front of a rest that is guarded. -/
def guardRest {α : Type} (found : α × List Char) : α × List Char :=
  (found.1, guardClosing found.2)

theorem splitSign_guardClosing (chars : List Char) :
    splitSign (guardClosing chars) = guardRest (splitSign chars) := by
  cases chars with
  | nil => rfl
  | cons char rest =>
      by_cases signed : char = '-' ∨ char = '+'
      · rcases signed with rfl | rfl <;> rfl
      · have unsigned (others : List Char) : splitSign (char :: others) = (false, char :: others) := by
          simp [splitSign, not_or.mp signed]
        obtain ⟨more, same⟩ := exists_guardClosing_cons char rest
        rw [same, unsigned, unsigned, guardRest, same]

theorem splitMinus_guardClosing (chars : List Char) :
    splitMinus (guardClosing chars) = guardRest (splitMinus chars) := by
  fun_cases splitMinus chars with
  | case1 rest => rfl
  | case2 others noMinus =>
      rw [splitMinus]
      · rfl
      · exact guardClosing_ne_cons noMinus

theorem takeWhile_isDigit_guardClosing (chars : List Char) :
    (guardClosing chars).takeWhile Char.isDigit = chars.takeWhile Char.isDigit :=
  takeWhile_guardClosing rfl chars

theorem dropWhile_isDigit_guardClosing (chars : List Char) :
    (guardClosing chars).dropWhile Char.isDigit =
      guardClosing (chars.dropWhile Char.isDigit) :=
  dropWhile_guardClosing rfl chars

theorem splitFraction_guardClosing (chars : List Char) :
    splitFraction (guardClosing chars) = guardRest (splitFraction chars) := by
  fun_cases splitFraction chars with
  | case1 rest =>
      rw [guardClosing_cons (by decide), splitFraction, takeWhile_isDigit_guardClosing,
        dropWhile_isDigit_guardClosing]
      rfl
  | case2 others noPoint =>
      rw [splitFraction]
      · rfl
      · exact guardClosing_ne_cons noPoint

theorem readPower_guardClosing (chars : List Char) :
    readPower (guardClosing chars) = (readPower chars).map guardRest := by
  cases chars with
  | nil => rfl
  | cons mark rest =>
      by_cases power : (mark == 'e' || mark == 'E') = true
      · have notSign : mark ≠ '<' := by
          rintro rfl
          exact absurd power (by decide)
        simp only [guardClosing_cons notSign, readPower, if_pos power, splitSign_guardClosing,
          guardRest, takeWhile_isDigit_guardClosing, dropWhile_isDigit_guardClosing]
        split <;> rfl
      · obtain ⟨more, same⟩ := exists_guardClosing_cons mark rest
        rw [same]
        simp only [readPower, if_neg power, Option.map_some, guardRest, same]

theorem readNumber_guardClosing (chars : List Char) :
    readNumber (guardClosing chars) = guardRest (readNumber chars) := by
  simp only [readNumber, splitMinus_guardClosing, guardRest, takeWhile_isDigit_guardClosing,
    dropWhile_isDigit_guardClosing, splitFraction_guardClosing, readPower_guardClosing]
  split
  · rfl
  · cases readPower _ <;> rfl

theorem readScalar_of_numeric {char : Char} (numeric : (char == '-' || char.isDigit) = true)
    (rest : List Char) : readScalar (char :: rest) = readNumber (char :: rest) := by
  have notLetter : char ≠ 'n' ∧ char ≠ 't' ∧ char ≠ 'f' := by
    refine ⟨?_, ?_, ?_⟩
    all_goals
      rintro rfl
      exact absurd numeric (by decide)
  rw [readScalar, if_pos numeric]
  · exact fun _ isLetter => absurd isLetter notLetter.1
  · exact fun _ isLetter => absurd isLetter notLetter.2.1
  · exact fun _ isLetter => absurd isLetter notLetter.2.2

theorem readScalar_guardClosing {chars : List Char}
    (whole : (readScalar chars).1.isWhole = true) :
    readScalar (guardClosing chars) = guardRest (readScalar chars) := by
  fun_cases readScalar chars with
  | case1 rest | case2 rest | case3 rest => rfl
  | case4 char rest _ _ _ numeric =>
      have notSign : char ≠ '<' := by
        rintro rfl
        exact absurd numeric (by decide)
      rw [← readNumber_guardClosing, guardClosing_cons notSign, readScalar_of_numeric numeric]
  | case5 char rest notNull notTrue notFalse notNumeric =>
      rw [readScalar, if_neg notNumeric] at whole
      · exact nomatch whole
      · exact notNull
      · exact notTrue
      · exact notFalse
  | case6 => exact nomatch whole

/-! ## Values -/

theorem of_isWhole_enclosed {α : Type} {wrap : List α → Bool → Draft} {depth : Nat}
    {found : List α × Bool × List Char} (isWhole : ∀ inside closed,
      (wrap inside closed).isWhole = closed)
    (whole : (enclosed wrap depth found).1.isWhole = true) : found.2.1 = true := by
  obtain ⟨inside, closed, rest⟩ := found
  cases closed with
  | true => rfl
  | false => exact (isWhole inside false).symm.trans whole

/-- What was found and whether it was closed, in front of a rest that is guarded. -/
def guardBehind {α : Type} (found : List α × Bool × List Char) : List α × Bool × List Char :=
  (found.1, found.2.1, guardClosing found.2.2)

theorem enclosed_guardBehind {α : Type} (wrap : List α → Bool → Draft) (depth : Nat)
    (found : List α × Bool × List Char) :
    enclosed wrap depth (guardBehind found) = guardRest (enclosed wrap depth found) := by
  obtain ⟨inside, closed, rest⟩ := found
  simp only [enclosed, guardBehind]
  rw [apply_ite guardRest]
  rfl

/-- Behind an opening sign a guarded text is read as the text itself is, if what stands inside
is read so. -/
theorem readInside_guardClosing {α : Type} {closing : Char} (notSign : closing ≠ '<')
    {read readGuarded : List Char → List α × Bool × List Char}
    (reads : ∀ inside, (read inside).2.1 = true →
      readGuarded (guardClosing inside) = guardBehind (read inside))
    {chars : List Char} (closed : (readInside closing read chars).2.1 = true) :
    readInside closing readGuarded (guardClosing chars) =
      guardBehind (readInside closing read chars) := by
  unfold readInside at closed ⊢
  rw [skipSpace_guardClosing]
  cases begins : skipSpace chars with
  | nil =>
      rw [begins] at closed
      exact reads chars closed
  | cons char rest =>
      rw [begins] at closed
      by_cases closes : char = closing
      · subst closes
        simp [guardClosing_cons notSign, guardBehind]
      · obtain ⟨more, same⟩ := exists_guardClosing_cons char rest
        simp only [same, if_neg closes] at closed ⊢
        exact reads chars closed

/-- All that `fuel` is enough to read is read from a guarded text with `more`. -/
structure ReadsGuarded (fuel more : Nat) : Prop where
  value {depth : Nat} {chars : List Char} (whole : (readValue fuel depth chars).1.isWhole = true) :
    readValue more depth (guardClosing chars) = guardRest (readValue fuel depth chars)
  items {depth : Nat} {chars : List Char} (closed : (readItems fuel depth chars).2.1 = true) :
    readItems more depth (guardClosing chars) = guardBehind (readItems fuel depth chars)
  members {depth : Nat} {chars : List Char} (closed : (readMembers fuel depth chars).2.1 = true) :
    readMembers more depth (guardClosing chars) = guardBehind (readMembers fuel depth chars)

namespace ReadsGuarded

variable {fuel more depth : Nat} {chars : List Char}

theorem readItems_succ (reads : ReadsGuarded fuel more)
    (closed : (readItems (fuel + 1) depth chars).2.1 = true) :
    readItems (more + 1) depth (guardClosing chars) =
      guardBehind (readItems (fuel + 1) depth chars) := by
  simp only [readItems] at closed ⊢
  cases whole : (readValue fuel depth chars).1.isWhole with
  | false => exact absurd closed (by simp [whole])
  | true =>
      simp only [reads.value whole, guardRest, skipSpace_guardClosing, whole, Bool.not_true,
        Bool.false_eq_true, if_false] at closed ⊢
      generalize skipSpace (readValue fuel depth chars).2 = behind at closed ⊢
      split at closed
      · rfl
      · rw [guardClosing_cons (by decide)]
        simp only [reads.items closed]
        rfl
      · exact absurd closed Bool.false_ne_true

theorem readMembers_succ (reads : ReadsGuarded fuel more)
    (closed : (readMembers (fuel + 1) depth chars).2.1 = true) :
    readMembers (more + 1) depth (guardClosing chars) =
      guardBehind (readMembers (fuel + 1) depth chars) := by
  simp only [readMembers, skipSpace_guardClosing] at closed ⊢
  generalize skipSpace chars = begins at closed ⊢
  split at closed
  case h_2 => exact absurd closed Bool.false_ne_true
  case h_1 rest =>
  rw [guardClosing_cons (by decide)]
  cases named : readText rest with
  | none => exact absurd closed (by simp [named])
  | some found =>
      simp only [named, readText_guardClosing named, skipSpace_guardClosing] at closed ⊢
      generalize skipSpace found.2 = behindName at closed ⊢
      split at closed
      case h_2 => exact absurd closed Bool.false_ne_true
      case h_1 valueOn =>
      rw [guardClosing_cons (by decide)]
      cases whole : (readValue fuel depth valueOn).1.isWhole with
      | false => exact absurd closed (by simp [whole])
      | true =>
          simp only [reads.value whole, guardRest, skipSpace_guardClosing, whole, Bool.not_true,
            Bool.false_eq_true, if_false] at closed ⊢
          generalize skipSpace (readValue fuel depth valueOn).2 = behind at closed ⊢
          split at closed
          · rfl
          · rw [guardClosing_cons (by decide)]
            simp only [reads.members closed]
            rfl
          · exact absurd closed Bool.false_ne_true

theorem readValue_succ (reads : ReadsGuarded fuel more)
    (whole : (readValue (fuel + 1) depth chars).1.isWhole = true) :
    readValue (more + 1) depth (guardClosing chars) =
      guardRest (readValue (fuel + 1) depth chars) := by
  simp only [readValue, skipSpace_guardClosing] at whole ⊢
  generalize skipSpace chars = begins at whole ⊢
  split at whole
  case h_1 rest =>
    rw [guardClosing_cons (by decide)]
    cases read : readText rest with
    | none => exact absurd whole (by simp [read, Draft.isWhole])
    | some found =>
        obtain ⟨found, later⟩ := found
        simp only [readText_guardClosing read]
        cases found <;> rfl
  case h_2 rest =>
    have closed := of_isWhole_enclosed (fun _ _ => rfl) whole
    rw [guardClosing_cons (by decide), ← enclosed_guardBehind,
      ← readInside_guardClosing (by decide) (fun _ => reads.items) closed]
    rfl
  case h_3 rest =>
    have closed := of_isWhole_enclosed (fun _ _ => rfl) whole
    rw [guardClosing_cons (by decide), ← enclosed_guardBehind,
      ← readInside_guardClosing (by decide) (fun _ => reads.members) closed]
    rfl
  case h_4 notText notItems notMembers =>
    rw [← readScalar_guardClosing whole]
    split
    case h_1 later begins => exact absurd begins (guardClosing_ne_cons notText later)
    case h_2 later begins => exact absurd begins (guardClosing_ne_cons notItems later)
    case h_3 later begins => exact absurd begins (guardClosing_ne_cons notMembers later)
    case h_4 => rfl

end ReadsGuarded

theorem readsGuarded {fuel more : Nat} (enough : fuel ≤ more) : ReadsGuarded fuel more := by
  -- A guarded text is longer, so it is read with more fuel than the text itself.
  induction fuel generalizing more with
  | zero =>
      constructor
      case value => exact fun whole => absurd whole Bool.false_ne_true
      case items => exact fun closed => absurd closed Bool.false_ne_true
      case members => exact fun closed => absurd closed Bool.false_ne_true
  | succ fuel ih =>
      cases more with
      | zero => exact absurd enough (Nat.not_succ_le_zero fuel)
      | succ more =>
          have reads := ih (Nat.le_of_succ_le_succ enough)
          exact ⟨reads.readValue_succ, reads.readItems_succ, reads.readMembers_succ⟩

theorem length_le_length_guardClosing (chars : List Char) :
    chars.length ≤ (guardClosing chars).length := by
  fun_induction guardClosing chars with
  | case1 rest ih => simpa using Nat.le_succ_of_le ih
  | case2 char rest _ ih => simpa using ih
  | case3 => exact Nat.le_refl 0

/-- A text that is wholly JSON gives the same value when it is guarded. -/
theorem parse?_guardClosing {chars : List Char} {value : Value}
    (parses : Value.parse? (String.ofList chars) = some value) :
    Value.parse? (String.ofList (guardClosing chars)) = some value := by
  simp only [Value.parse?, Draft.read, String.toList_ofList] at parses ⊢
  split at parses
  case isFalse => exact absurd parses.symm (Option.some_ne_none value)
  case isTrue wholly =>
    have enough := Nat.succ_le_succ (length_le_length_guardClosing chars)
    rw [(readsGuarded enough).value (isWhole_of_value? parses)]
    simp only [guardRest, skipSpace_guardClosing, List.isEmpty_iff.mp wholly]
    exact parses

end PublicSite.Seo
