import Mathlib.Data.List.Basic
import PublicSite.Proofs.Text.Line

/-!
# Words and the lines that they make

The words of a text are its longest runs without white space.  A line is tidy when
white space stands only between words, as one space.  Every text has the words of
exactly one tidy line, the one that it is reduced to.
-/

namespace PublicSite.Text

/-! ## The words of a text -/

/-- A word holds something, and no white space. -/
structure IsWord (word : List Char) : Prop where
  notEmpty : word ≠ []
  solid : ∀ char ∈ word, isBlankChar char = false

theorem isWord_of_mem_words {chars word : List Char} (member : word ∈ words chars) :
    IsWord word := by
  obtain ⟨notEmpty, solid⟩ := mem_fields member
  exact ⟨notEmpty, solid⟩

/-- The words of a text by their rule: behind any white space stands a longest run
without any, and behind that the words of the rest. -/
inductive AreWords : List Char → List (List Char) → Prop
  | blank {chars : List Char} (isBlank : ∀ char ∈ chars, isBlankChar char = true) :
      AreWords chars []
  | word {space word rest : List Char} {others : List (List Char)}
      (areBlank : ∀ char ∈ space, isBlankChar char = true) (isWord : IsWord word)
      (ends : ∀ char ∈ rest.head?, isBlankChar char = true)
      (areOthers : AreWords rest others) : AreWords (space ++ word ++ rest) (word :: others)

theorem AreWords.words_eq {chars : List Char} {parts : List (List Char)}
    (areWords : AreWords chars parts) : words chars = parts := by
  induction areWords with
  | blank isBlank => exact fields_eq_nil_iff.mpr isBlank
  | word areBlank isWord ends areOthers ih =>
      rw [words, List.append_assoc, fields_separators_append areBlank,
        fields_append isWord.notEmpty isWord.solid ends, ← words, ih]

theorem AreWords.cons_blank {char : Char} {chars : List Char} {parts : List (List Char)}
    (areWords : AreWords chars parts) (isBlank : isBlankChar char = true) :
    AreWords (char :: chars) parts := by
  cases areWords with
  | blank areBlank => exact .blank (List.forall_mem_cons.mpr ⟨isBlank, areBlank⟩)
  | word areBlank isWord ends areOthers =>
      exact .word (List.forall_mem_cons.mpr ⟨isBlank, areBlank⟩) isWord ends areOthers

/-- A text can begin with a word. -/
theorem AreWords.front {word rest : List Char} {others : List (List Char)}
    (isWord : IsWord word) (ends : ∀ char ∈ rest.head?, isBlankChar char = true)
    (areOthers : AreWords rest others) : AreWords (word ++ rest) (word :: others) :=
  @AreWords.word [] word rest others (List.forall_mem_nil _) isWord ends areOthers

/-- A character that is not blank is a word, or goes on with the word behind it. -/
theorem AreWords.exists_cons {char : Char} {chars : List Char} {parts : List (List Char)}
    (areWords : AreWords chars parts) (isSolid : isBlankChar char = false) :
    ∃ others, AreWords (char :: chars) others := by
  by_cases ends : ∀ first ∈ chars.head?, isBlankChar first = true
  · have alone : IsWord [char] := ⟨List.cons_ne_nil _ _, by simpa using isSolid⟩
    exact ⟨[char] :: parts, AreWords.front alone ends areWords⟩
  · cases areWords with
    | blank areBlank =>
        exact absurd (fun first isFirst => areBlank first (List.mem_of_mem_head? isFirst)) ends
    | @word space word rest others areBlank isWord restEnds areOthers =>
        cases space with
        | nil =>
            have longer : IsWord (char :: word) :=
              ⟨List.cons_ne_nil _ _, List.forall_mem_cons.mpr ⟨isSolid, isWord.solid⟩⟩
            exact ⟨(char :: word) :: others, AreWords.front longer restEnds areOthers⟩
        | cons mark space =>
            have markBlank := areBlank mark List.mem_cons_self
            exact absurd (by simpa using markBlank) ends

theorem exists_areWords (chars : List Char) : ∃ parts, AreWords chars parts := by
  induction chars with
  | nil => exact ⟨[], .blank (List.forall_mem_nil _)⟩
  | cons char rest ih =>
      obtain ⟨parts, areWords⟩ := ih
      cases kind : isBlankChar char with
      | true => exact ⟨parts, areWords.cons_blank kind⟩
      | false => exact areWords.exists_cons kind

/-- A text has one list of words. -/
theorem areWords_iff {chars : List Char} {parts : List (List Char)} :
    AreWords chars parts ↔ words chars = parts := by
  constructor
  · exact AreWords.words_eq
  · rintro rfl
    obtain ⟨parts, areWords⟩ := exists_areWords chars
    rwa [areWords.words_eq]

/-! ## Tidy lines -/

/-- White space stands only between two words, and is a single space there. -/
def IsTidy (line : List Char) : Prop :=
  ∀ front char back, line = front ++ char :: back → isBlankChar char = true →
    char = ' ' ∧ ∃ earlier last first later, front = earlier ++ [last] ∧ back = first :: later ∧
      isBlankChar last = false ∧ isBlankChar first = false

/-- A character of a text with a mark in it stands before the mark, is the mark, or
stands behind it. -/
theorem append_cons_cases {left right front back : List Char} {mark char : Char}
    (split_eq : left ++ mark :: right = front ++ char :: back) :
    (∃ rest, left = front ++ char :: rest) ∨ (left = front ∧ mark = char ∧ right = back) ∨
      ∃ between, front = left ++ mark :: between ∧ right = between ++ char :: back := by
  induction left generalizing front with
  | nil =>
      cases front with
      | nil =>
          obtain ⟨sameMark, sameBack⟩ := List.cons.inj split_eq
          exact Or.inr (Or.inl ⟨rfl, sameMark, sameBack⟩)
      | cons head between =>
          obtain ⟨rfl, behind⟩ := List.cons.inj split_eq
          exact Or.inr (Or.inr ⟨between, rfl, behind⟩)
  | cons head left ih =>
      cases front with
      | nil =>
          obtain ⟨rfl, _⟩ := List.cons.inj split_eq
          exact Or.inl ⟨left, rfl⟩
      | cons other front =>
          obtain ⟨rfl, restEq⟩ := List.cons.inj split_eq
          rcases ih restEq with ⟨rest, rfl⟩ | ⟨rfl, same⟩ | ⟨between, rfl, behind⟩
          · exact Or.inl ⟨rest, rfl⟩
          · exact Or.inr (Or.inl ⟨rfl, same⟩)
          · exact Or.inr (Or.inr ⟨between, rfl, behind⟩)

theorem not_blank_of_solid {char : Char} {front back : List Char}
    (solid : ∀ other ∈ front ++ char :: back, isBlankChar other = false) :
    ¬ isBlankChar char = true := by
  rw [solid char (List.mem_append_right front List.mem_cons_self)]
  exact Bool.false_ne_true

theorem isTidy_of_solid {line : List Char} (solid : ∀ char ∈ line, isBlankChar char = false) :
    IsTidy line := by
  rintro front char back rfl isBlank
  exact absurd isBlank (not_blank_of_solid solid)

theorem not_isTidy_cons {char : Char} {rest : List Char} (isBlank : isBlankChar char = true) :
    ¬ IsTidy (char :: rest) := by
  intro tidy
  obtain ⟨_, earlier, last, _, _, front_eq, _⟩ := tidy [] char rest rfl isBlank
  simp at front_eq

/-- A word and a space can be put in front of a tidy line. -/
theorem IsTidy.append {word line : List Char} {first : Char} (tidy : IsTidy (first :: line))
    (isWord : IsWord word) : IsTidy (word ++ ' ' :: first :: line) := by
  intro front char back split_eq isBlank
  rcases append_cons_cases split_eq with ⟨rest, rfl⟩ | ⟨rfl, rfl, rfl⟩ | ⟨between, rfl, behind⟩
  · exact absurd isBlank (not_blank_of_solid isWord.solid)
  · have firstSolid : isBlankChar first = false :=
      Bool.eq_false_iff.mpr fun firstBlank => not_isTidy_cons firstBlank tidy
    exact ⟨rfl, word.dropLast, word.getLast isWord.notEmpty, first, line,
      (List.dropLast_concat_getLast isWord.notEmpty).symm, rfl,
      isWord.solid _ (List.getLast_mem isWord.notEmpty), firstSolid⟩
  · obtain ⟨isSpace, earlier, last, next, after, rfl, rfl, solids⟩ :=
      tidy between char back behind isBlank
    refine ⟨isSpace, word ++ ' ' :: earlier, last, next, after, ?_, rfl, solids⟩
    rw [List.append_assoc, List.cons_append]

/-- What stands behind a space of a tidy line is tidy. -/
theorem IsTidy.of_append {front back : List Char} (tidy : IsTidy (front ++ ' ' :: back)) :
    IsTidy back := by
  rintro between char behind rfl isBlank
  obtain ⟨isSpace, earlier, last, first, later, before_eq, rfl, lastSolid, firstSolid⟩ :=
    tidy (front ++ ' ' :: between) char behind (by simp) isBlank
  refine ⟨isSpace, ?_⟩
  rcases List.eq_nil_or_concat' between with rfl | ⟨start, final, rfl⟩
  · obtain ⟨_, rfl⟩ := List.append_singleton_inj.mp before_eq
    exact absurd isBlankChar_space (by rw [lastSolid]; exact Bool.false_ne_true)
  · have cut_eq : (front ++ ' ' :: start) ++ [final] = earlier ++ [last] := by
      rw [← before_eq, List.append_assoc, List.cons_append]
    obtain ⟨_, rfl⟩ := List.append_singleton_inj.mp cut_eq
    exact ⟨start, final, first, later, rfl, rfl, lastSolid, firstSolid⟩

theorem isTidy_join {parts : List (List Char)} (areWords : ∀ part ∈ parts, IsWord part) :
    IsTidy (join [' '] parts) := by
  induction parts with
  | nil => exact isTidy_of_solid (List.forall_mem_nil _)
  | cons word rest ih =>
      obtain ⟨isWord, restAreWords⟩ := List.forall_mem_cons.mp areWords
      cases rest with
      | nil => exact isTidy_of_solid isWord.solid
      | cons second others =>
          have tidy := ih restAreWords
          cases second with
          | nil => exact absurd rfl (restAreWords [] List.mem_cons_self).notEmpty
          | cons first second =>
              rw [join_cons_char] at tidy
              rw [join_cons_cons, List.append_assoc, join_cons_char]
              exact tidy.append isWord

/-- A tidy line is made of its words, with one space between them. -/
theorem singleLineChars_of_isTidy {line : List Char} (tidy : IsTidy line) :
    singleLineChars line = line := by
  obtain ⟨parts, areWords⟩ := exists_areWords line
  cases areWords with
  | blank isBlank =>
      cases line with
      | nil => rfl
      | cons char rest => exact absurd tidy (not_isTidy_cons (isBlank char List.mem_cons_self))
  | @word space word rest others areBlank isWord ends areOthers =>
      cases space with
      | cons char space => exact absurd tidy (not_isTidy_cons (areBlank char List.mem_cons_self))
      | nil =>
          rw [List.nil_append] at tidy ⊢
          rw [singleLineChars, words, fields_append isWord.notEmpty isWord.solid ends]
          cases rest with
          | nil => rw [fields_nil, join, List.append_nil]
          | cons mark back =>
              have markBlank : isBlankChar mark = true := ends mark rfl
              obtain ⟨rfl, _, _, first, later, _, rfl, _, firstSolid⟩ :=
                tidy word mark back rfl markBlank
              -- What stands behind the space is tidy too, and shorter.
              have joined := singleLineChars_of_isTidy tidy.of_append
              rw [fields_cons_separator markBlank, ← words]
              cases behind : words (first :: later) with
              | nil =>
                  have allBlank := List.all_eq_true.mp (words_eq_nil_iff.mp behind)
                  have firstBlank := allBlank first List.mem_cons_self
                  exact absurd (firstBlank.symm.trans firstSolid) (by decide)
              | cons second others =>
                  rw [join_cons_cons, ← behind, ← singleLineChars, joined, List.append_assoc,
                    List.singleton_append]
termination_by line.length

theorem singleLineChars_eq_self_iff {line : List Char} :
    singleLineChars line = line ↔ IsTidy line := by
  constructor
  · intro same
    rw [← same]
    exact isTidy_join fun _ => isWord_of_mem_words
  · exact singleLineChars_of_isTidy

/-! ## Reducing to one line -/

theorem isTidy_singleLine (text : String) : IsTidy (singleLine text).toList := by
  rw [toList_singleLine, ← singleLineChars_eq_self_iff, singleLineChars_singleLineChars]

theorem words_singleLine (text : String) :
    words (singleLine text).toList = words text.toList := by
  rw [toList_singleLine, words_singleLineChars]

/-- Only the words of a text decide what it is reduced to. -/
theorem singleLine_eq_iff {text other : String} :
    singleLine text = singleLine other ↔ words text.toList = words other.toList := by
  constructor
  · intro same
    rw [← words_singleLine, same, words_singleLine]
  · intro same
    rw [singleLine, singleLineChars, same, ← singleLineChars, ← singleLine]

/-- A text is reduced to the one tidy line that has its words. -/
theorem singleLine_eq_iff_isTidy {text line : String} :
    singleLine text = line ↔ IsTidy line.toList ∧ words line.toList = words text.toList := by
  constructor
  · rintro rfl
    exact ⟨isTidy_singleLine text, words_singleLine text⟩
  · rintro ⟨tidy, sameWords⟩
    have unchanged : singleLine line = line := by
      rw [singleLine, singleLineChars_of_isTidy tidy, String.ofList_toList]
    rw [← unchanged, singleLine_eq_iff, sameWords]

theorem singleLine_eq_empty_iff {text : String} :
    singleLine text = "" ↔ isBlank text.toList = true := by
  rw [← isEmpty_singleLine, String.isEmpty_iff]

/-- Reducing a text to one line keeps its words and nothing else. -/
theorem singleLine_keeps_words (text : String) :
    (∀ parts, AreWords text.toList parts ↔ words text.toList = parts) ∧
    words (singleLine text).toList = words text.toList ∧
    IsTidy (singleLine text).toList ∧
    (singleLine text = "" ↔ isBlank text.toList = true) ∧
    singleLine (singleLine text) = singleLine text ∧
    (∀ line, singleLine text = line ↔ IsTidy line.toList ∧
      words line.toList = words text.toList) ∧
    ∀ other, singleLine text = singleLine other ↔ words text.toList = words other.toList :=
  ⟨fun _ => areWords_iff, words_singleLine text, isTidy_singleLine text, singleLine_eq_empty_iff,
    singleLine_singleLine text, fun _ => singleLine_eq_iff_isTidy, fun _ => singleLine_eq_iff⟩

example : singleLine "\u2003Mei\t\u00A0 Chan\n" = "Mei Chan" := by decide

end PublicSite.Text
