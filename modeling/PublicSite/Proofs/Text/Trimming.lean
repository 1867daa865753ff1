import Mathlib.Data.List.DropRight
import PublicSite.Text.Ascii
import PublicSite.Text.Blank

/-!
# Trimming and the beginnings of texts

Trimming stops at the first character that it keeps, so it can be carried into
the parts of a text.  A text that is trimmed already stays as it is, and a word
that a text opens with is found again in every longer text.
-/

namespace PublicSite.Text

/-! ## Trimming -/

/-- Nothing is dropped before a character that is kept. -/
theorem dropEndWhile_append_cons {drops : Char → Bool} {kept : Char}
    (isKept : drops kept = false) (front back : List Char) :
    dropEndWhile drops (front ++ kept :: back) = front ++ kept :: dropEndWhile drops back := by
  induction back using List.reverseRecOn with
  | nil => simp [isKept]
  | append_singleton back last ih =>
      rw [← List.cons_append, ← List.append_assoc, dropEndWhile_append_singleton,
        dropEndWhile_append_singleton, ih]
      by_cases dropped : drops last = true <;> simp [dropped]

/-- Nothing is dropped before a part of which something is kept. -/
theorem dropEndWhile_append {drops : Char → Bool} {back : List Char}
    (somethingKept : dropEndWhile drops back ≠ []) (front : List Char) :
    dropEndWhile drops (front ++ back) = front ++ dropEndWhile drops back := by
  have notEmpty : (back.reverse.dropWhile drops).isEmpty = false :=
    List.isEmpty_eq_false_iff.mpr fun none => somethingKept (by simp [dropEndWhile, none])
  simp [dropEndWhile, List.dropWhile_append, notEmpty]

/-- Nothing is dropped before a part that is kept whole. -/
theorem dropEndWhile_append_of_kept {drops : Char → Bool} {back : List Char}
    (kept : dropEndWhile drops back = back) (notEmpty : back ≠ []) (front : List Char) :
    dropEndWhile drops (front ++ back) = front ++ back := by
  rw [dropEndWhile_append (by rwa [kept]), kept]

theorem dropEndWhile_isPrefix (drops : Char → Bool) (chars : List Char) :
    dropEndWhile drops chars <+: chars :=
  -- Both cut the end of a list in the same way, by definition.
  List.rdropWhile_prefix drops chars

@[simp]
theorem dropEndWhile_dropEndWhile (drops : Char → Bool) (chars : List Char) :
    dropEndWhile drops (dropEndWhile drops chars) = dropEndWhile drops chars :=
  List.rdropWhile_idempotent drops chars

/-- What is kept does not end with a character that is dropped. -/
theorem not_suffix_dropEndWhile {drops : Char → Bool} {last : Char}
    (dropped : drops last = true) (chars : List Char) :
    ¬ [last] <:+ dropEndWhile drops chars := by
  rintro ⟨front, whole⟩
  have stable := dropEndWhile_dropEndWhile drops chars
  rw [← whole, dropEndWhile_append_singleton, if_pos dropped] at stable
  have shorter := (dropEndWhile_isPrefix drops front).length_le
  rw [stable, List.length_append, List.length_singleton] at shorter
  omega

/-- A text that loses anything gets shorter. -/
theorem length_dropEndWhile_lt {drops : Char → Bool} {chars : List Char}
    (changed : dropEndWhile drops chars ≠ chars) :
    (dropEndWhile drops chars).length < chars.length := by
  have isPrefix := dropEndWhile_isPrefix drops chars
  exact lt_of_le_of_ne isPrefix.length_le fun same => changed (isPrefix.eq_of_length same)

/-- A character that is kept anywhere is not dropped at the end. -/
theorem mem_dropEndWhile_of_mem {drops : Char → Bool} {chars : List Char} {char : Char}
    (isKept : drops char = false) (member : char ∈ chars) : char ∈ dropEndWhile drops chars := by
  obtain ⟨dropped, split_eq, allDropped⟩ := dropEndWhile_append_suffix drops chars
  rw [split_eq] at member
  rcases List.mem_append.mp member with kept | isDropped
  · exact kept
  · exact absurd (allDropped char isDropped) (by simp [isKept])

@[simp]
theorem trim_nil : trim [] = [] :=
  rfl

theorem trimRight_cons {first : Char} (notBlank : isBlankChar first = false)
    (rest : List Char) : trimRight (first :: rest) = first :: trimRight rest :=
  dropEndWhile_append_cons notBlank [] rest

/-- Only the end of a text is trimmed when its first character is not blank. -/
theorem trim_cons {first : Char} (notBlank : isBlankChar first = false) (rest : List Char) :
    trim (first :: rest) = first :: trimRight rest := by
  rw [trim, trimLeft, List.dropWhile_cons_of_neg (by simp [notBlank]), trimRight_cons notBlank]

theorem not_blank_of_trimLeft_eq_cons {chars rest : List Char} {first : Char}
    (left : trimLeft chars = first :: rest) : isBlankChar first = false := by
  have stops := List.head?_dropWhile_not isBlankChar chars
  rw [← trimLeft, left] at stops
  simpa using stops

/-- A trimmed text is empty or begins with a character that is not blank. -/
theorem trim_eq_nil_or_cons (chars : List Char) :
    trim chars = [] ∨ ∃ first rest, isBlankChar first = false ∧
      trim chars = first :: trimRight rest := by
  cases left : trimLeft chars with
  | nil => simp [trim, trimRight, left]
  | cons first rest =>
      have notBlank := not_blank_of_trimLeft_eq_cons left
      refine Or.inr ⟨first, rest, notBlank, ?_⟩
      rw [trim, left, trimRight_cons notBlank]

@[simp]
theorem trim_trim (chars : List Char) : trim (trim chars) = trim chars := by
  rcases trim_eq_nil_or_cons chars with empty | ⟨first, rest, notBlank, trimmed⟩
  · rw [empty, trim_nil]
  · rw [trimmed, trim_cons notBlank]
    exact congrArg (first :: ·) (dropEndWhile_dropEndWhile isBlankChar rest)

/-- Nothing is trimmed of a text without white space. -/
theorem trim_of_no_blank {chars : List Char} (none : ∀ char ∈ chars, isBlankChar char = false) :
    trim chars = chars := by
  have left : trimLeft chars = chars :=
    List.dropWhile_eq_self_iff.mpr fun long => by simp [none]
  have right : dropEndWhile isBlankChar chars = chars :=
    List.rdropWhile_eq_self_iff.mpr fun notEmpty => by simp [none]
  rw [trim, left, trimRight, right]

/-- White space at the end hides no other character. -/
theorem mem_trimRight_of_mem {chars : List Char} {char : Char} (notBlank : isBlankChar char = false)
    (member : char ∈ chars) : char ∈ trimRight chars :=
  mem_dropEndWhile_of_mem notBlank member

/-- Trimming adds no character. -/
theorem mem_of_mem_trim {chars : List Char} {char : Char} (member : char ∈ trim chars) :
    char ∈ chars :=
  (List.dropWhile_suffix _).subset ((dropEndWhile_isPrefix _ _).subset member)

/-- White space stands at the end of a text. -/
def EndsBlank (chars : List Char) : Prop :=
  ∃ front last, chars = front ++ [last] ∧ isBlankChar last = true

theorem trimRight_eq_self_iff {chars : List Char} :
    trimRight chars = chars ↔ ¬ EndsBlank chars := by
  constructor
  · rintro kept ⟨front, last, rfl, blank⟩
    apply not_suffix_dropEndWhile blank (front ++ [last])
    rw [← trimRight, kept]
    exact List.suffix_append front [last]
  · intro noBlank
    induction chars using List.reverseRecOn with
    | nil => rfl
    | append_singleton front last _ =>
        rw [trimRight, dropEndWhile_append_singleton, if_neg]
        intro blank
        exact noBlank ⟨front, last, rfl, blank⟩

theorem trimRight_append_blank (chars : List Char) {back : List Char}
    (blank : isBlank back = true) : trimRight (chars ++ back) = trimRight chars := by
  induction back using List.reverseRecOn with
  | nil => rw [List.append_nil]
  | append_singleton back last ih =>
      rw [isBlank, List.all_append, Bool.and_eq_true] at blank
      obtain ⟨blankBack, blankLast⟩ := blank
      rw [← List.append_assoc, trimRight, dropEndWhile_append_singleton,
        if_pos (by simpa using blankLast)]
      exact ih blankBack

/-- White space around a text is trimmed with its own. -/
theorem trim_blank_append_blank {front back : List Char} (blankFront : isBlank front = true)
    (blankBack : isBlank back = true) (chars : List Char) :
    trim (front ++ (chars ++ back)) = trim chars := by
  have left : trimLeft (front ++ (chars ++ back)) = trimLeft (chars ++ back) :=
    List.dropWhile_append_of_pos (List.all_eq_true.mp blankFront)
  rw [trim, left, trim, trimLeft, List.dropWhile_append]
  split
  · rename_i nothing
    have nothingBehind : back.dropWhile isBlankChar = [] :=
      List.dropWhile_eq_nil_iff.mpr (List.all_eq_true.mp blankBack)
    rw [nothingBehind, trimLeft, List.isEmpty_iff.mp nothing]
  · exact trimRight_append_blank _ blankBack

/-- A text is blank when trimming leaves nothing of it. -/
theorem trim_eq_nil_iff (chars : List Char) : trim chars = [] ↔ isBlank chars = true := by
  constructor
  · intro empty
    have leftBlank : ∀ char ∈ trimLeft chars, isBlankChar char = true :=
      List.rdropWhile_eq_nil_iff.mp empty
    cases left : trimLeft chars with
    | nil => exact List.all_eq_true.mpr (List.dropWhile_eq_nil_iff.mp left)
    | cons first rest =>
        have notBlank := not_blank_of_trimLeft_eq_cons left
        rw [leftBlank first (by simp [left])] at notBlank
        exact absurd notBlank Bool.true_eq_false.mp
  · intro blank
    have nothing : trimLeft chars = [] :=
      List.dropWhile_eq_nil_iff.mpr (List.all_eq_true.mp blank)
    rw [trim, nothing, trimRight, dropEndWhile_nil]

/-- A beginning of a trimmed text can lose only its own end. -/
theorem trim_prefix_trim {front chars : List Char} (isPrefix : front <+: trim chars) :
    trim front <+: trim chars := by
  cases front with
  | nil => exact List.nil_prefix
  | cons first rest =>
      obtain ⟨back, whole⟩ := isPrefix
      have notBlank : isBlankChar first = false := by
        rcases trim_eq_nil_or_cons chars with empty | ⟨head, others, notBlank, trimmed⟩
        · simp [empty] at whole
        · rw [trimmed, List.cons_append] at whole
          rwa [(List.cons.inj whole).1]
      rw [trim_cons notBlank]
      have shorter : first :: trimRight rest <+: first :: rest :=
        (List.prefix_cons_inj first).mpr (dropEndWhile_isPrefix _ _)
      exact shorter.trans ⟨back, whole⟩

@[simp]
theorem isBlank_trim (chars : List Char) : isBlank (trim chars) = isBlank chars := by
  rw [Bool.eq_iff_iff, ← trim_eq_nil_iff, trim_trim, trim_eq_nil_iff]

@[simp]
theorem toList_trimmed (text : String) : (trimmed text).toList = trim text.toList :=
  String.toList_ofList

@[simp]
theorem trimmed_trimmed (text : String) : trimmed (trimmed text) = trimmed text := by
  rw [trimmed, toList_trimmed, trim_trim, ← trimmed]

theorem nonBlank?_eq_none_iff {text : String} :
    nonBlank? text = none ↔ isBlank text.toList = true := by
  simp [nonBlank?]

theorem bind_nonBlank?_eq_none_iff {value : Option String} :
    value.bind nonBlank? = none ↔ ∀ text ∈ value, isBlank text.toList = true := by
  cases value with
  | none => simp
  | some text => simp [nonBlank?_eq_none_iff]

theorem isSome_bind_nonBlank?_iff {value : Option String} :
    (value.bind nonBlank?).isSome ↔ ∃ text ∈ value, isBlank text.toList = false := by
  rw [Option.isSome_iff_ne_none, Ne, bind_nonBlank?_eq_none_iff]
  simp

theorem nonBlank?_eq_some_iff {text kept : String} :
    nonBlank? text = some kept ↔ isBlank text.toList = false ∧ trimmed text = kept := by
  cases blank : isBlank text.toList <;> simp [nonBlank?, blank]

/-! ## Beginnings -/

/-- Only a small letter is also the small form of another character. -/
theorem eq_of_toLower_eq {char small : Char} (lower : char.toLower = small)
    (notLetter : small.isLower = false) : char = small := by
  unfold Char.toLower at lower
  split at lower
  · rename_i capital
    subst lower
    have lowEnd : 65 ≤ char.val.toNat := UInt32.le_iff_toNat_le.mp capital.1
    have highEnd : char.val.toNat ≤ 90 := UInt32.le_iff_toNat_le.mp capital.2
    have shifted : (char.val + ('a'.val - 'A'.val)).toNat = char.val.toNat + 32 := by
      rw [UInt32.toNat_add]
      exact Nat.mod_eq_of_lt (by change _ + 32 < _; omega)
    change (decide (_ ≥ 'a'.val) && decide (_ ≤ 'z'.val)) = false at notLetter
    simp only [Bool.and_eq_false_iff, decide_eq_false_iff_not, ge_iff_le,
      UInt32.le_iff_toNat_le, shifted] at notLetter
    change ¬ 97 ≤ _ ∨ ¬ _ ≤ 122 at notLetter
    omega
  · exact lower

/-- A text in small letters that holds none was written so. -/
theorem eq_of_asciiLower_eq {chars marks : List Char} (lower : asciiLower chars = marks)
    (noLetters : marks.any Char.isLower = false) : chars = marks := by
  induction chars generalizing marks with
  | nil => exact lower
  | cons char rest ih =>
      subst lower
      rw [asciiLower, List.map_cons, List.any_cons, Bool.or_eq_false_iff] at noLetters
      obtain ⟨first, others⟩ := noLetters
      rw [asciiLower, List.map_cons, ← eq_of_toLower_eq rfl first]
      exact congrArg (char :: ·) (ih rfl others)

/-- The characters of the word stand first, each in either case. -/
theorem opensWith_iff {word : String} {chars : List Char} :
    opensWith word chars = true ↔
      ∃ head rest, chars = head ++ rest ∧ asciiLower head = word.toList := by
  constructor
  · intro opens
    exact ⟨chars.take word.toList.length, chars.drop word.toList.length,
      (List.take_append_drop _ _).symm, beq_iff_eq.mp opens⟩
  · rintro ⟨head, rest, rfl, lower⟩
    have sameLength : word.toList.length = head.length := by
      rw [← lower, asciiLower, List.length_map]
    rw [opensWith, sameLength, List.take_left, lower]
    exact beq_self_eq_true _

theorem opensWith_of_isPrefix {word : String} {front chars : List Char}
    (isPrefix : front <+: chars) (opens : opensWith word front = true) :
    opensWith word chars = true := by
  obtain ⟨back, rfl⟩ := isPrefix
  obtain ⟨head, rest, rfl, lower⟩ := opensWith_iff.mp opens
  exact opensWith_iff.mpr ⟨head, rest ++ back, by simp, lower⟩

end PublicSite.Text
