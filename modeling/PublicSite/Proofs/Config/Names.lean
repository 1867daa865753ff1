import Mathlib.Data.List.Basic
import PublicSite.Config.Layers
import PublicSite.Proofs.Config.Tree
import PublicSite.Proofs.Text.Pieces

/-!
# Names of variables

The name of a variable that counts is cut, behind the fixed word, at every two
underscores into the names of a path.  The key that is made of it on the way, with
points between the names and one underscore between the words of a name, is read as
this path again when the names are words of small letters.
-/

namespace PublicSite.Config

open PublicSite.Text PublicSite.Json

/-! ## The path that a name stands for -/

/-- What stands between two underscores and the next two. -/
def sections : List Char → List (List Char)
  | '_' :: '_' :: rest => [] :: sections rest
  | char :: rest =>
      match sections rest with
      | [] => [[char]]
      | first :: others => (char :: first) :: others
  | [] => [[]]

theorem sections_ne_nil (chars : List Char) : sections chars ≠ [] := by
  fun_cases sections chars <;> simp

/-- Points for two underscores are points between the sections. -/
theorem pointSections_eq_join (chars : List Char) :
    pointSections chars = join ['.'] (sections chars) := by
  fun_induction sections chars with
  | case1 rest ih =>
      cases parts : sections rest with
      | nil => exact absurd parts (sections_ne_nil rest)
      | cons first others => rw [pointSections, ih, parts, join_cons_cons]; rfl
  | case2 char rest single empty ih => exact absurd empty (sections_ne_nil rest)
  | case3 char rest single first others parts ih =>
      rw [pointSections, ih, parts, join_cons_char]
      exact single
  | case4 => rfl

/-- The path that the name of a variable stands for, if the variable counts. -/
def variablePath? (name : String) : Option Path :=
  let lower := smallName name
  if variablePrefix.toList.isPrefixOf lower then
    some ((sections (lower.drop variablePrefix.toList.length)).map String.ofList)
  else none

/-- The key of a path: its names with points between them, as words. -/
def keyOf (path : Path) : String :=
  String.ofList (snakeCase (join ['.'] (path.map String.toList)))

theorem variableKey?_eq (name : String) : variableKey? name = (variablePath? name).map keyOf := by
  simp only [variableKey?, variablePath?]
  split_ifs with counts
  · rw [Option.map_some, keyOf, List.map_map, pointSections_eq_join]
    simp [Function.comp_def]
  · rfl

/-! ## Names of words -/

/-- A name of words: small letters, and single underscores between the words. -/
def IsName (name : String) : Prop :=
  ∀ word ∈ pieces (· == '_') name.toList, word ≠ [] ∧ ∀ char ∈ word, char.isLower = true

instance : DecidablePred IsName := fun name =>
  decidable_of_iff
    ((pieces (· == '_') name.toList).all fun word => !word.isEmpty && word.all Char.isLower)
    (by simp [IsName])

theorem IsName.eq_or_isLower {name : String} (isName : IsName name) {char : Char}
    (member : char ∈ name.toList) : char = '_' ∨ char.isLower = true := by
  rw [← join_pieces '_' name.toList] at member
  rcases mem_join member with isMark | ⟨word, isWord, inWord⟩
  · exact Or.inl (List.mem_singleton.mp isMark)
  · exact Or.inr ((isName word isWord).2 char inWord)

theorem IsName.isNameChar {name : String} (isName : IsName name) {char : Char}
    (member : char ∈ name.toList) : isNameChar char = true := by
  rcases isName.eq_or_isLower member with rfl | isLower
  · rfl
  · change (char.isUpper || char.isLower || char.isDigit || char == '_' || char == '-') = true
    simp [isLower]

theorem IsName.toList_ne_nil {name : String} (isName : IsName name) : name.toList ≠ [] := by
  intro empty
  have nothing : ([] : List Char) ∈ pieces (· == '_') name.toList := by simp [empty, pieces]
  exact (isName [] nothing).1 rfl

/-! ## Keys of names -/

variable {path : Path}

/-- Between the points and underscores of a key there is always something. -/
theorem not_mem_pieces_join (notEmpty : path ≠ []) (areNames : ∀ name ∈ path, IsName name) :
    [] ∉ pieces (· == '_') (join ['.'] (path.map String.toList)) := by
  induction path with
  | nil => exact absurd rfl notEmpty
  | cons first rest ih =>
      obtain ⟨isName, areNames⟩ := List.forall_mem_cons.mp areNames
      have firstWords : [] ∉ pieces (· == '_') first.toList := fun empty => (isName [] empty).1 rfl
      cases rest with
      | nil => exact firstWords
      | cons second others =>
          have restWords := ih (List.cons_ne_nil second others) areNames
          intro empty
          rw [List.map_cons, List.map_cons, join_cons_cons, ← List.map_cons] at empty
          have pointPieces : pieces (· == '_') ['.'] = [['.']] := rfl
          rcases mem_pieces_append empty with inFront | inRest | ⟨last, -, front, inRest, together⟩
          · rcases mem_pieces_append inFront with
              inFirst | inPoint | ⟨last, -, point, isPoint, together⟩
            · exact firstWords inFirst
            · simp [pointPieces] at inPoint
            · simp [pointPieces] at isPoint
              simp [isPoint] at together
          · exact restWords inRest
          · obtain ⟨-, rfl⟩ := List.append_eq_nil_iff.mp together.symm
            exact restWords inRest

theorem separateDigits_of_no_digit {chars : List Char}
    (none : ∀ char ∈ chars, char.isDigit = false) : separateDigits chars = chars := by
  fun_induction separateDigits chars with
  | case1 left right rest changes ih => simp_all [changesClass]
  | case2 left right rest changes ih => simp_all
  | case3 => rfl

theorem isDigit_eq_false_of_isLower {char : Char} (isLower : char.isLower = true) :
    char.isDigit = false := by
  change (decide (char.val ≥ 97) && decide (char.val ≤ 122)) = true at isLower
  change (decide (char.val ≥ 48) && decide (char.val ≤ 57)) = false
  simp only [Bool.and_eq_true, Bool.and_eq_false_iff, decide_eq_true_eq, decide_eq_false_iff_not,
    ge_iff_le, UInt32.le_iff_toNat_le] at isLower ⊢
  change 97 ≤ char.val.toNat ∧ _ at isLower
  change _ ∨ ¬ char.val.toNat ≤ 57
  omega

/-- A key of words stays as it is. -/
theorem snakeCase_of_words {chars : List Char} (words : [] ∉ pieces (· == '_') chars)
    (plain : ∀ char ∈ chars, char = '_' ∨ char = '.' ∨ char.isLower = true) :
    snakeCase chars = chars := by
  have cuts : pieces separatesWords chars = pieces (· == '_') chars := by
    refine pieces_congr fun char member => ?_
    rcases plain char member with rfl | rfl | isLower
    · rfl
    · rfl
    · have isNone : ∀ mark : Char, mark.isLower = false → (char == mark) = false := by
        intro mark notLower
        rw [beq_eq_false_iff_ne]
        rintro rfl
        exact Bool.false_ne_true (notLower.symm.trans isLower)
      rw [separatesWords, isNone '-' rfl, isNone ' ' rfl, Bool.or_false, Bool.or_false]
  have noDigit : ∀ char ∈ chars, char.isDigit = false := by
    intro char member
    rcases plain char member with rfl | rfl | isLower
    · rfl
    · rfl
    · exact isDigit_eq_false_of_isLower isLower
  have kept : ∀ word ∈ pieces (· == '_') chars, separateDigits word = word := fun word isWord =>
    separateDigits_of_no_digit fun char inside => noDigit char (mem_of_mem_pieces isWord inside)
  have allWords : fields separatesWords chars = pieces (· == '_') chars := by
    rw [fields, cuts, List.filter_eq_self]
    intro word isWord
    cases word with
    | nil => exact absurd isWord words
    | cons first rest => rfl
  rw [snakeCase, allWords, List.map_congr_left kept, List.map_id', join_pieces]

theorem toList_keyOf (notEmpty : path ≠ []) (areNames : ∀ name ∈ path, IsName name) :
    (keyOf path).toList = join ['.'] (path.map String.toList) := by
  rw [keyOf, String.toList_ofList]
  refine snakeCase_of_words (not_mem_pieces_join notEmpty areNames) fun char member => ?_
  rcases mem_join member with isPoint | ⟨chars, isPart, inside⟩
  · exact Or.inr (Or.inl (List.mem_singleton.mp isPoint))
  · obtain ⟨name, isName, rfl⟩ := List.mem_map.mp isPart
    exact ((areNames name isName).eq_or_isLower inside).imp_right Or.inr

/-- A name ends where the point before the next one stands. -/
theorem cut_name {name : List Char} (isName : ∀ char ∈ name, isNameChar char = true)
    (names : List (List Char)) :
    (name ++ names.flatMap (['.'] ++ ·)).takeWhile isNameChar = name ∧
      (name ++ names.flatMap (['.'] ++ ·)).dropWhile isNameChar = names.flatMap (['.'] ++ ·) := by
  have noName : isNameChar '.' = false := rfl
  rw [List.takeWhile_append_of_pos isName, List.dropWhile_append_of_pos isName]
  cases names <;> simp [noName]

theorem length_le_length_flatMap (names : List (List Char)) :
    names.length ≤ (names.flatMap (['.'] ++ ·)).length := by
  induction names with
  | nil => exact Nat.le_refl 0
  | cons name rest ih =>
      rw [List.flatMap_cons, List.length_append, List.length_append, List.length_cons]
      simp only [List.length_singleton]
      omega

theorem readSteps?_names {names : List (List Char)} {fuel : Nat} (enough : names.length ≤ fuel)
    (areNames : ∀ name ∈ names, name ≠ [] ∧ ∀ char ∈ name, isNameChar char = true) :
    readSteps? fuel (names.flatMap (['.'] ++ ·)) =
      some (names.map fun name => .member (String.ofList name)) := by
  induction names generalizing fuel with
  | nil => simp [readSteps?]
  | cons name rest ih =>
      obtain ⟨⟨notEmpty, isName⟩, areNames⟩ := List.forall_mem_cons.mp areNames
      obtain ⟨takes, drops⟩ := cut_name isName rest
      cases fuel with
      | zero => simp at enough
      | succ fuel =>
          have restSteps := ih (Nat.le_of_succ_le_succ enough) areNames
          change readSteps? (fuel + 1) ('.' :: (name ++ rest.flatMap (['.'] ++ ·))) = _
          simp only [readSteps?, takes, drops, restSteps, List.isEmpty_iff, notEmpty, if_false]
          rfl

/-- The key of a path of names leads along the path. -/
theorem place_keyOf (notEmpty : path ≠ []) (areNames : ∀ name ∈ path, IsName name) :
    place (keyOf path) = path.map .member := by
  cases path with
  | nil => exact absurd rfl notEmpty
  | cons first rest =>
      have key := toList_keyOf notEmpty areNames
      obtain ⟨isName, areNames⟩ := List.forall_mem_cons.mp areNames
      rw [List.map_cons, join_cons_eq_append_flatMap] at key
      obtain ⟨takes, drops⟩ := cut_name (fun _ member => isName.isNameChar member)
        (rest.map String.toList)
      have enough : (rest.map String.toList).length ≤ (keyOf (first :: rest)).toList.length := by
        have partsFit := length_le_length_flatMap (rest.map String.toList)
        rw [key, List.length_append]
        omega
      have steps := readSteps?_names enough (by
        intro chars isPart
        obtain ⟨name, member, rfl⟩ := List.mem_map.mp isPart
        have isName := areNames name member
        exact ⟨isName.toList_ne_nil, fun _ inside => isName.isNameChar inside⟩)
      rw [key] at steps
      have notEmpty : first.toList.isEmpty = false :=
        List.isEmpty_eq_false_iff.mpr isName.toList_ne_nil
      simp only [place, key, takes, drops, steps, notEmpty]
      simp [Function.comp_def]

end PublicSite.Config
