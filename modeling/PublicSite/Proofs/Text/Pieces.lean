import Mathlib.Data.List.TakeWhile
import PublicSite.Text.Pieces

/-!
# Cutting and joining

A text is cut at a separator into what its two sides are cut into.  From this one
equation the fields of joined fields are those fields again, and joining the
fields of a text never makes it longer.
-/

namespace PublicSite.Text

theorem before_isPrefix (separates : Char → Bool) (chars : List Char) :
    before separates chars <+: chars :=
  List.takeWhile_prefix _

/-- A text without separators stands before the first one. -/
theorem before_of_no_separator {separates : Char → Bool} {chars : List Char}
    (none : ∀ char ∈ chars, separates char = false) : before separates chars = chars :=
  List.takeWhile_eq_self_iff.mpr fun char member => by simp [none char member]

theorem before_append_of_no_separator {separates : Char → Bool} {front : List Char}
    (none : ∀ char ∈ front, separates char = false) (back : List Char) :
    before separates (front ++ back) = front ++ before separates back :=
  List.takeWhile_append_of_pos fun char member => by simp [none char member]

theorem startingAt_eq_nil_iff {separates : Char → Bool} {chars : List Char} :
    startingAt separates chars = [] ↔ ∀ char ∈ chars, separates char = false := by
  rw [startingAt, List.dropWhile_eq_nil_iff]
  simp

/-- What follows begins with a separator. -/
theorem separates_of_startingAt_eq_cons {separates : Char → Bool} {chars rest : List Char}
    {first : Char} (starts : startingAt separates chars = first :: rest) :
    separates first = true := by
  have stops := List.head?_dropWhile_not (fun char => !separates char) chars
  rw [← startingAt, starts] at stops
  simpa using stops

theorem startingAt_append_of_no_separator {separates : Char → Bool} {front : List Char}
    (none : ∀ char ∈ front, separates char = false) (back : List Char) :
    startingAt separates (front ++ back) = startingAt separates back :=
  List.dropWhile_append_of_pos fun char member => by simp [none char member]

/-- A text without separators ends where a separator follows it. -/
theorem cut_append {separates : Char → Bool} {front : List Char}
    (none : ∀ char ∈ front, separates char = false) (back : List Char)
    (cut : ∀ char ∈ back.head?, separates char = true) :
    before separates (front ++ back) = front ∧ startingAt separates (front ++ back) = back := by
  rw [before_append_of_no_separator none, startingAt_append_of_no_separator none]
  cases back with
  | nil => exact ⟨List.append_nil front, rfl⟩
  | cons first rest =>
      have isCut : separates first = true := cut first rfl
      simp [before, startingAt, isCut]

/-- Behind a separator a text can go on with anything. -/
theorem startingAt_append {separates : Char → Bool} {front : List Char}
    (stops : startingAt separates front ≠ []) (back : List Char) :
    startingAt separates (front ++ back) = startingAt separates front ++ back := by
  rw [startingAt] at stops ⊢
  rw [List.dropWhile_append, if_neg (by simpa using stops)]
  rfl

theorem before_append {separates : Char → Bool} {front : List Char}
    (stops : startingAt separates front ≠ []) (back : List Char) :
    before separates (front ++ back) = before separates front := by
  have whole : before separates (front ++ back) ++ (startingAt separates front ++ back) =
      before separates front ++ (startingAt separates front ++ back) := by
    rw [← startingAt_append stops, before_append_startingAt, startingAt_append stops,
      ← List.append_assoc, before_append_startingAt]
  exact List.append_cancel_right whole

theorem splitOnce?_append {separates : Char → Bool} {front : List Char} {separator : Char}
    (none : ∀ char ∈ front, separates char = false) (isSeparator : separates separator = true)
    (back : List Char) : splitOnce? separates (front ++ separator :: back) = some (front, back) := by
  have passes : ∀ char ∈ front, (!separates char) = true := by
    intro char member
    rw [none char member]
    rfl
  rw [splitOnce?, List.dropWhile_append_of_pos passes, List.takeWhile_append_of_pos passes,
    List.dropWhile_cons_of_neg (by simp [isSeparator]),
    List.takeWhile_cons_of_neg (by simp [isSeparator]), List.append_nil]

theorem splitOnce?_of_no_separator {separates : Char → Bool} {chars : List Char}
    (none : ∀ char ∈ chars, separates char = false) : splitOnce? separates chars = Option.none := by
  have nothing : chars.dropWhile (fun char => !separates char) = [] :=
    startingAt_eq_nil_iff.mpr none
  rw [splitOnce?, nothing]

/-- A text is cut at its first separator. -/
theorem splitOnce?_eq_some_iff {separates : Char → Bool} {chars front back : List Char} :
    splitOnce? separates chars = some (front, back) ↔
      ∃ separator, separates separator = true ∧ (∀ char ∈ front, separates char = false) ∧
        chars = front ++ separator :: back := by
  constructor
  · intro isCut
    unfold splitOnce? at isCut
    split at isCut
    · exact nomatch isCut
    · rename_i separator after starts
      obtain ⟨rfl, rfl⟩ := Prod.mk.inj (Option.some.inj isCut)
      refine ⟨separator, separates_of_startingAt_eq_cons starts, fun char member => ?_, ?_⟩
      · simpa using List.mem_takeWhile_imp member
      · rw [← starts, List.takeWhile_append_dropWhile]
  · rintro ⟨separator, isSeparator, none, rfl⟩
    exact splitOnce?_append none isSeparator back

/-- A character that is not in a text separates nothing in it. -/
theorem beq_eq_false_of_not_mem {mark : Char} {chars : List Char} (absent : mark ∉ chars) :
    ∀ char ∈ chars, (char == mark) = false := by
  intro char member
  rw [beq_eq_false_iff_ne]
  rintro rfl
  exact absent member

/-- What stands before a separator holds none. -/
theorem separates_eq_false_of_mem_before {separates : Char → Bool} {chars : List Char} :
    ∀ char ∈ before separates chars, separates char = false := by
  intro char member
  simpa using List.mem_takeWhile_imp member

/-- What follows begins with a separator, if there is one. -/
theorem startingAt_eq_nil_or_cons (mark : Char) (chars : List Char) :
    startingAt (· == mark) chars = [] ∨ ∃ rest, startingAt (· == mark) chars = mark :: rest := by
  cases tail : startingAt (· == mark) chars with
  | nil => exact Or.inl rfl
  | cons first rest =>
      have separated := separates_of_startingAt_eq_cons tail
      exact Or.inr ⟨rest, by rw [beq_iff_eq.mp separated]⟩

/-- Both sides of a separator are cut for themselves. -/
theorem pieces_append_separator {separates : Char → Bool} {separator : Char}
    (isSeparator : separates separator = true) (left right : List Char) :
    pieces separates (left ++ separator :: right) =
      pieces separates left ++ pieces separates right := by
  induction left with
  | nil => simp [pieces, isSeparator]
  | cons char rest ih =>
      by_cases separated : separates char = true
      · simp [pieces, separated, ih]
      · cases parts : pieces separates rest with
        | nil => exact absurd parts (pieces_ne_nil separates rest)
        | cons first others => simp [pieces, separated, ih, parts]

/-- Only what separates in the text matters. -/
theorem pieces_congr {separates others : Char → Bool} {chars : List Char}
    (same : ∀ char ∈ chars, separates char = others char) :
    pieces separates chars = pieces others chars := by
  induction chars with
  | nil => rfl
  | cons char rest ih =>
      obtain ⟨sameFirst, sameRest⟩ := List.forall_mem_cons.mp same
      rw [pieces, pieces, sameFirst, ih sameRest]

/-- Where two texts meet without a separator, the last piece goes on as the first. -/
theorem pieces_append {separates : Char → Bool} {left right last first : List Char}
    {front back : List (List Char)} (leftPieces : pieces separates left = front ++ [last])
    (rightPieces : pieces separates right = first :: back) :
    pieces separates (left ++ right) = front ++ (last ++ first) :: back := by
  induction left generalizing front last with
  | nil =>
      obtain ⟨rfl, rfl⟩ : front = [] ∧ last = [] := by
        cases front <;> simp_all [pieces]
      exact rightPieces
  | cons char rest ih =>
      by_cases separated : separates char = true
      · simp only [pieces, separated, if_true] at leftPieces
        cases front with
        | nil => exact absurd (List.cons.inj leftPieces).2 (pieces_ne_nil separates rest)
        | cons empty front =>
            obtain ⟨rfl, restPieces⟩ := List.cons.inj leftPieces
            simp [pieces, separated, ih restPieces]
      · cases parts : pieces separates rest with
        | nil => exact absurd parts (pieces_ne_nil separates rest)
        | cons head others =>
            simp only [pieces, separated, parts] at leftPieces
            cases front with
            | nil =>
                obtain ⟨rfl, rfl⟩ := List.cons.inj leftPieces
                have together : pieces separates (rest ++ right) = (head ++ first) :: back :=
                  @ih head [] parts
                simp [pieces, separated, together]
            | cons whole front =>
                obtain ⟨rfl, rfl⟩ := List.cons.inj leftPieces
                have together : pieces separates (rest ++ right) =
                    head :: (front ++ (last ++ first) :: back) := @ih last (head :: front) parts
                simp [pieces, separated, together]

/-- A piece of two texts together is a piece of one, or the last and the first as one. -/
theorem mem_pieces_append {separates : Char → Bool} {left right piece : List Char}
    (isPiece : piece ∈ pieces separates (left ++ right)) :
    piece ∈ pieces separates left ∨ piece ∈ pieces separates right ∨
      ∃ last ∈ pieces separates left, ∃ first ∈ pieces separates right, piece = last ++ first := by
  obtain ⟨front, last, leftPieces⟩ : ∃ front last, pieces separates left = front ++ [last] :=
    ⟨_, _, (List.dropLast_concat_getLast (pieces_ne_nil separates left)).symm⟩
  cases rightPieces : pieces separates right with
  | nil => exact absurd rightPieces (pieces_ne_nil separates right)
  | cons first back =>
      rw [pieces_append leftPieces rightPieces] at isPiece
      rw [leftPieces]
      rcases List.mem_append.mp isPiece with inFront | behind
      · exact Or.inl (List.mem_append_left _ inFront)
      · rcases List.mem_cons.mp behind with rfl | inBack
        · exact Or.inr (Or.inr ⟨last, by simp, first, List.mem_cons_self, rfl⟩)
        · exact Or.inr (Or.inl (List.mem_cons_of_mem first inBack))

theorem fields_append_separator {separates : Char → Bool} {separator : Char}
    (isSeparator : separates separator = true) (left right : List Char) :
    fields separates (left ++ separator :: right) =
      fields separates left ++ fields separates right := by
  rw [fields, pieces_append_separator isSeparator, List.filter_append]
  rfl

@[simp]
theorem fields_nil (separates : Char → Bool) : fields separates [] = [] :=
  rfl

/-- A separator at the front is in no field. -/
theorem fields_cons_separator {separates : Char → Bool} {separator : Char}
    (isSeparator : separates separator = true) (chars : List Char) :
    fields separates (separator :: chars) = fields separates chars := by
  simpa using fields_append_separator isSeparator [] chars

theorem fields_separators_append {separates : Char → Bool} {separators : List Char}
    (areSeparators : ∀ char ∈ separators, separates char = true) (chars : List Char) :
    fields separates (separators ++ chars) = fields separates chars := by
  induction separators with
  | nil => rfl
  | cons separator rest ih =>
      obtain ⟨isSeparator, restSeparate⟩ := List.forall_mem_cons.mp areSeparators
      rw [List.cons_append, fields_cons_separator isSeparator, ih restSeparate]

/-- Neither are separators at the end. -/
theorem fields_append_separators {separates : Char → Bool} {chars separators : List Char}
    (areSeparators : ∀ char ∈ separators, separates char = true) :
    fields separates (chars ++ separators) = fields separates chars := by
  induction separators generalizing chars with
  | nil => rw [List.append_nil]
  | cons separator rest ih =>
      have restSeparate : ∀ char ∈ rest, separates char = true := fun char member =>
        areSeparators char (List.mem_cons_of_mem separator member)
      have nothing : fields separates rest = [] := by
        have empty : fields separates ([] ++ rest) = fields separates [] := ih restSeparate
        simpa using empty
      rw [fields_append_separator (areSeparators separator List.mem_cons_self), nothing,
        List.append_nil]

/-- Only a text of separators has no fields. -/
theorem fields_eq_nil_iff {separates : Char → Bool} {chars : List Char} :
    fields separates chars = [] ↔ ∀ char ∈ chars, separates char = true := by
  constructor
  · intro empty
    induction chars with
    | nil => simp
    | cons char rest ih =>
        by_cases separated : separates char = true
        · rw [fields_cons_separator separated] at empty
          simpa [separated] using ih empty
        · cases parts : pieces separates rest with
          | nil => exact absurd parts (pieces_ne_nil separates rest)
          | cons first others => simp [fields, pieces, separated, parts] at empty
  · intro separators
    have nothing : fields separates ([] ++ chars) = fields separates [] :=
      fields_append_separators separators
    simpa using nothing

/-- A text that holds something and no separator is its own only field. -/
theorem fields_of_no_separator {separates : Char → Bool} {chars : List Char}
    (notEmpty : chars ≠ []) (none : ∀ char ∈ chars, separates char = false) :
    fields separates chars = [chars] := by
  simp [fields, pieces_of_no_separator none, notEmpty]

/-- A text that holds something and no separator is the first field where it ends. -/
theorem fields_append {separates : Char → Bool} {field rest : List Char} (notEmpty : field ≠ [])
    (none : ∀ char ∈ field, separates char = false)
    (ends : ∀ char ∈ rest.head?, separates char = true) :
    fields separates (field ++ rest) = field :: fields separates rest := by
  cases rest with
  | nil => rw [List.append_nil, fields_of_no_separator notEmpty none, fields_nil]
  | cons separator after =>
      have isSeparator : separates separator = true := ends separator rfl
      rw [fields_append_separator isSeparator, fields_of_no_separator notEmpty none,
        fields_cons_separator isSeparator]
      rfl

/-- A field holds something, and no separator. -/
theorem mem_fields {separates : Char → Bool} {chars field : List Char}
    (member : field ∈ fields separates chars) :
    field ≠ [] ∧ ∀ char ∈ field, separates char = false := by
  obtain ⟨isPiece, notEmpty⟩ := List.mem_filter.mp member
  exact ⟨by simpa using notEmpty, separates_eq_false_of_mem_pieces isPiece⟩

theorem mem_of_mem_pieces {separates : Char → Bool} {chars piece : List Char}
    (isPiece : piece ∈ pieces separates chars) {char : Char} (member : char ∈ piece) :
    char ∈ chars := by
  induction chars generalizing piece with
  | nil =>
      have empty : piece = [] := List.mem_singleton.mp isPiece
      simp [empty] at member
  | cons head rest ih =>
      by_cases separated : separates head = true
      · simp only [pieces, separated, if_true] at isPiece
        rcases List.mem_cons.mp isPiece with rfl | later
        · simp at member
        · exact List.mem_cons_of_mem head (ih later member)
      · cases parts : pieces separates rest with
        | nil => exact absurd parts (pieces_ne_nil separates rest)
        | cons first others =>
            rw [parts] at ih
            simp only [pieces, separated, parts] at isPiece
            rcases List.mem_cons.mp isPiece with rfl | later
            · rcases List.mem_cons.mp member with rfl | inside
              · exact List.mem_cons_self
              · exact List.mem_cons_of_mem head (ih List.mem_cons_self inside)
            · exact List.mem_cons_of_mem head (ih (List.mem_cons_of_mem first later) member)

/-- The characters of a field are characters of the text. -/
theorem mem_of_mem_fields {separates : Char → Bool} {chars field : List Char}
    (isField : field ∈ fields separates chars) {char : Char} (member : char ∈ field) :
    char ∈ chars :=
  mem_of_mem_pieces (List.mem_filter.mp isField).1 member

theorem join_cons_cons (separator first second : List Char) (rest : List (List Char)) :
    join separator (first :: second :: rest) =
      first ++ separator ++ join separator (second :: rest) :=
  rfl

theorem join_cons_char (separator : List Char) (char : Char) (first : List Char)
    (rest : List (List Char)) :
    join separator ((char :: first) :: rest) = char :: join separator (first :: rest) := by
  cases rest with
  | nil => rfl
  | cons second others => rfl

/-- Each part but the first stands behind a separator. -/
theorem join_cons_eq_append_flatMap (separator first : List Char) (rest : List (List Char)) :
    join separator (first :: rest) = first ++ rest.flatMap (separator ++ ·) := by
  induction rest generalizing first with
  | nil => simp [join]
  | cons second others ih => rw [join_cons_cons, ih]; simp

/-- A character of a joined text is one of the separator or of a part. -/
theorem mem_join {separator : List Char} {parts : List (List Char)} {char : Char}
    (member : char ∈ join separator parts) : char ∈ separator ∨ ∃ part ∈ parts, char ∈ part := by
  induction parts with
  | nil => exact absurd member List.not_mem_nil
  | cons first rest ih =>
      cases rest with
      | nil => exact Or.inr ⟨first, List.mem_cons_self, member⟩
      | cons second others =>
          rw [join_cons_cons] at member
          rcases List.mem_append.mp member with front | later
          · rcases List.mem_append.mp front with inFirst | inSeparator
            · exact Or.inr ⟨first, List.mem_cons_self, inFirst⟩
            · exact Or.inl inSeparator
          · rcases ih later with inSeparator | ⟨part, isPart, inPart⟩
            · exact Or.inl inSeparator
            · exact Or.inr ⟨part, List.mem_cons_of_mem first isPart, inPart⟩

/-- Joined fields are cut into the same fields. -/
theorem fields_join {separates : Char → Bool} {separator : Char}
    (isSeparator : separates separator = true) {parts : List (List Char)}
    (areFields : ∀ part ∈ parts, part ≠ [] ∧ ∀ char ∈ part, separates char = false) :
    fields separates (join [separator] parts) = parts := by
  induction parts with
  | nil => rfl
  | cons first rest ih =>
      obtain ⟨notEmpty, none⟩ := areFields first List.mem_cons_self
      have restFields := ih fun part member => areFields part (List.mem_cons_of_mem first member)
      cases rest with
      | nil => exact fields_of_no_separator notEmpty none
      | cons second others =>
          rw [join_cons_cons, List.append_assoc, List.singleton_append,
            fields_append_separator isSeparator, fields_of_no_separator notEmpty none,
            restFields]
          rfl

/-- Joined parts are cut into the same parts. -/
theorem pieces_join {separates : Char → Bool} {separator : Char}
    (isSeparator : separates separator = true) {parts : List (List Char)} (notEmpty : parts ≠ [])
    (none : ∀ part ∈ parts, ∀ char ∈ part, separates char = false) :
    pieces separates (join [separator] parts) = parts := by
  induction parts with
  | nil => exact absurd rfl notEmpty
  | cons first rest ih =>
      have alone := pieces_of_no_separator (none first List.mem_cons_self)
      cases rest with
      | nil => exact alone
      | cons second others =>
          have restPieces := ih (List.cons_ne_nil second others) fun part member =>
            none part (List.mem_cons_of_mem first member)
          rw [join_cons_cons, List.append_assoc, List.singleton_append,
            pieces_append_separator isSeparator, alone, restPieces]
          rfl

/-- The pieces of a text joined again are the text. -/
theorem join_pieces (separator : Char) (chars : List Char) :
    join [separator] (pieces (· == separator) chars) = chars := by
  induction chars with
  | nil => rfl
  | cons char rest ih =>
      cases parts : pieces (· == separator) rest with
      | nil => exact absurd parts (pieces_ne_nil _ rest)
      | cons first others =>
          rw [parts] at ih
          by_cases separated : char = separator
          · subst separated
            simp [pieces, parts, join_cons_cons, ih]
          · simp only [pieces, beq_iff_eq, separated, if_false, parts]
            rw [join_cons_char, ih]

/-- Fewer parts make no longer a text. -/
theorem length_join_le_of_sublist {separator : List Char} {fewer parts : List (List Char)}
    (sublist : fewer.Sublist parts) :
    (join separator fewer).length ≤ (join separator parts).length := by
  induction sublist with
  | slnil => exact Nat.le_refl _
  | @cons fewer parts part sublist ih =>
      cases parts with
      | nil => simp [List.sublist_nil.mp sublist, join]
      | cons second others =>
          rw [join_cons_cons]
          simp only [List.length_append]
          omega
  | @cons_cons fewer parts part sublist ih =>
      cases fewer with
      | nil =>
          cases parts with
          | nil => exact Nat.le_refl _
          | cons second others =>
              rw [join_cons_cons]
              simp [join]
      | cons first rest =>
          cases parts with
          | nil => exact absurd (List.sublist_nil.mp sublist) (List.cons_ne_nil _ _)
          | cons second others =>
              rw [join_cons_cons, join_cons_cons]
              simp only [List.length_append]
              omega

theorem length_join_fields_le (separator : Char) (chars : List Char) :
    (join [separator] (fields (· == separator) chars)).length ≤ chars.length := by
  calc
    (join [separator] (fields (· == separator) chars)).length ≤
        (join [separator] (pieces (· == separator) chars)).length :=
      length_join_le_of_sublist List.filter_sublist
    _ = chars.length := by rw [join_pieces]

end PublicSite.Text
