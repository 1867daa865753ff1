import PublicSite.Proofs.Failure
import PublicSite.Proofs.Text.Pieces
import PublicSite.Proofs.Url.Punycode
import PublicSite.Url.Domain

/-!
# The ASCII form of a name is its own

A label of an ASCII form stands for a label that is read as itself: either it is that
label, or it is written in Punycode and is read back.  So the ASCII form of a name is
a name whose ASCII form is itself.
-/

namespace PublicSite.Url.Domain

open PublicSite.Text

/-! ## Letters -/

/-- A fact about every ASCII character is one about all codes below 128. -/
theorem forall_ascii {holds : Char → Prop} (each : ∀ code < 128, holds (Char.ofNat code)) :
    ∀ char, isAscii char = true → holds char := by
  intro char ascii
  rw [← Char.ofNat_toNat char]
  exact each char.toNat (of_decide_eq_true ascii)

theorem isAscii_of_le {char last : Char} (upTo : char.val ≤ last.val)
    (ascii : isAscii last = true) : isAscii char = true :=
  decide_eq_true (Nat.lt_of_le_of_lt (UInt32.le_iff_toNat_le.mp upTo) (of_decide_eq_true ascii))

theorem isAscii_of_isAlphanum {char : Char} (isAlphanum : char.isAlphanum = true) :
    isAscii char = true := by
  rcases Bool.or_eq_true_iff.mp isAlphanum with letter | digit
  · rcases Bool.or_eq_true_iff.mp letter with capital | small
    · have upTo : char.val ≤ 'Z'.val := (of_decide_eq_true capital).2
      exact isAscii_of_le upTo (by decide)
    · have upTo : char.val ≤ 'z'.val := of_decide_eq_true (Bool.and_eq_true_iff.mp small).2
      exact isAscii_of_le upTo (by decide)
  · have upTo : char.val ≤ '9'.val := of_decide_eq_true (Bool.and_eq_true_iff.mp digit).2
    exact isAscii_of_le upTo (by decide)

theorem toLower_ascii : ∀ char, isAscii char = true →
    char.toLower.toLower = char.toLower ∧ isAscii char.toLower = true :=
  forall_ascii (by decide)

theorem toLower_of_not_isAscii {char : Char} (beyond : isAscii char = false) :
    char.toLower = char := by
  have notCapital : ¬ (char.val ≥ 'A'.val ∧ char.val ≤ 'Z'.val) := by
    intro capital
    rw [isAscii_of_le capital.2 (by decide)] at beyond
    exact absurd beyond Bool.true_eq_false.mp
  exact dif_neg notCapital

theorem toLower_toLower (char : Char) : char.toLower.toLower = char.toLower := by
  cases ascii : isAscii char with
  | false => rw [toLower_of_not_isAscii ascii, toLower_of_not_isAscii ascii]
  | true => exact (toLower_ascii char ascii).1

theorem asciiLower_asciiLower (chars : List Char) :
    asciiLower (asciiLower chars) = asciiLower chars := by
  rw [asciiLower, asciiLower, List.map_map]
  exact List.map_congr_left fun char _ => toLower_toLower char

/-! ## Characters of written labels -/

/-- A character that an ASCII form may hold within a label. -/
structure IsWritten (char : Char) : Prop where
  ascii : isAscii char = true
  lower : char.toLower = char
  notDot : char ≠ '.'

theorem isWritten_of_isDigitChar {char : Char} (isDigit : Punycode.isDigitChar char = true) :
    IsWritten char := by
  have digits : ∀ char, isAscii char = true → Punycode.isDigitChar char = true →
      char.toLower = char ∧ char ≠ '.' :=
    forall_ascii (by decide)
  have ascii : isAscii char = true := by
    refine isAscii_of_isAlphanum ?_
    rcases Bool.or_eq_true_iff.mp isDigit with small | digit
    · have letter : char.isAlpha = true := Bool.or_eq_true_iff.mpr (Or.inr small)
      exact Bool.or_eq_true_iff.mpr (Or.inl letter)
    · exact Bool.or_eq_true_iff.mpr (Or.inr digit)
  obtain ⟨lower, notDot⟩ := digits char ascii isDigit
  exact ⟨ascii, lower, notDot⟩

theorem isWritten_of_mem_punycodeMark {char : Char} (member : char ∈ punycodeMark) :
    IsWritten char := by
  have marks : char = 'x' ∨ char = 'n' ∨ char = '-' := by
    simpa [punycodeMark] using member
  rcases marks with rfl | rfl | rfl
  all_goals exact ⟨by decide, by decide, by decide⟩

/-- A character that is ASCII and read as itself is no capital letter. -/
theorem toLower_of_isKept {char : Char} (ascii : isAscii char = true)
    (kept : isKept char = true) : char.toLower = char := by
  have read : mapChar? char = some [char.toLower] := by
    rw [mapChar?, if_pos ascii]
  rw [isKept, read, beq_iff_eq] at kept
  exact List.singleton_inj.mp (Option.some.inj kept)

/-- A label that may stand in a name, between its dots. -/
structure IsLabel (label : List Char) : Prop where
  valid : isValidLabel label = true
  noDot : '.' ∉ label

theorem IsLabel.kept {label : List Char} (isLabel : IsLabel label) :
    ∀ char ∈ label, isKept char = true := by
  have valid := isLabel.valid
  simp only [isValidLabel, Bool.and_eq_true] at valid
  exact List.all_eq_true.mp valid.1.1.1.1

theorem IsLabel.not_isPrefixOf {label : List Char} (isLabel : IsLabel label) :
    punycodeMark.isPrefixOf label = false := by
  have valid := isLabel.valid
  simp only [isValidLabel, Bool.and_eq_true, Bool.not_eq_true'] at valid
  exact valid.1.2

theorem IsLabel.isWritten_of_isAscii {label : List Char} (isLabel : IsLabel label) {char : Char}
    (member : char ∈ label) (ascii : isAscii char = true) : IsWritten char where
  ascii := ascii
  lower := toLower_of_isKept ascii (isLabel.kept char member)
  notDot := by
    rintro rfl
    exact isLabel.noDot member

/-- A written label holds only characters that are read as themselves. -/
theorem IsLabel.isWritten_encodeLabel {label : List Char} (isLabel : IsLabel label) :
    ∀ char ∈ encodeLabel label, IsWritten char := by
  intro char member
  unfold encodeLabel at member
  split at member
  · rename_i allAscii
    exact isLabel.isWritten_of_isAscii member (List.all_eq_true.mp allAscii char member)
  · rcases List.mem_append.mp member with inMark | inCode
    · exact isWritten_of_mem_punycodeMark inMark
    · rcases Punycode.mem_encode inCode with ⟨inLabel, small⟩ | rfl | isDigit
      · exact isLabel.isWritten_of_isAscii inLabel (decide_eq_true small)
      · exact ⟨by decide, by decide, by decide⟩
      · exact isWritten_of_isDigitChar isDigit

/-! ## Labels -/

/-- A written label is one in Punycode exactly when the label holds more than ASCII. -/
theorem IsLabel.isPrefixOf_encodeLabel {label : List Char} (isLabel : IsLabel label) :
    punycodeMark.isPrefixOf (encodeLabel label) = !label.all isAscii := by
  cases ascii : label.all isAscii with
  | true =>
      rw [encodeLabel, if_pos ascii, isLabel.not_isPrefixOf]
      rfl
  | false =>
      rw [encodeLabel, if_neg (by simp [ascii]), List.isPrefixOf_iff_prefix.mpr]
      · rfl
      · exact List.prefix_append _ _

/-- A label is read back from what it is written as. -/
theorem IsLabel.decodeLabel?_encodeLabel {label : List Char} (isLabel : IsLabel label) :
    decodeLabel? (encodeLabel label) = some label := by
  rw [decodeLabel?, isLabel.isPrefixOf_encodeLabel, encodeLabel]
  cases ascii : label.all isAscii with
  | true => simp [isLabel.valid]
  | false =>
      have behindMark : (punycodeMark ++ Punycode.encode label).drop 4 = Punycode.encode label :=
        List.drop_left' rfl
      simp [behindMark, Punycode.decode?_encode, isLabel.valid, ascii]

/-- What a label of a mapped name stands for is a label. -/
theorem isLabel_of_decodeLabel? {written label : List Char} (noDot : '.' ∉ written)
    (read : decodeLabel? written = some label) : IsLabel label := by
  unfold decodeLabel? at read
  split at read
  · split at read
    · exact nomatch read
    · rename_i decoded isDecoded
      split at read
      · rename_i accepted
        obtain rfl := Option.some.inj read
        refine ⟨(Bool.and_eq_true_iff.mp accepted).1, fun dot => ?_⟩
        rcases Punycode.mem_of_decode? isDecoded dot with inCode | beyond
        · exact noDot (List.mem_of_mem_drop inCode)
        · exact absurd beyond (by decide)
      · exact nomatch read
  · split at read
    · rename_i valid
      obtain rfl := Option.some.inj read
      exact ⟨valid, noDot⟩
    · exact nomatch read

/-! ## Names -/

/-- A name of written labels is cut into them. -/
theorem labels_join {decoded : List (List Char)} (notEmpty : decoded ≠ [])
    (areLabels : ∀ label ∈ decoded, IsLabel label) :
    labels (join ['.'] (decoded.map encodeLabel)) = decoded.map encodeLabel := by
  refine pieces_join rfl (by simpa using notEmpty) ?_
  intro part member char inPart
  obtain ⟨label, isMember, rfl⟩ := List.mem_map.mp member
  exact beq_eq_false_iff_ne.mpr
    ((areLabels label isMember).isWritten_encodeLabel char inPart).notDot

/-- A name of written labels holds only small letters and other ASCII. -/
theorem plain_join {decoded : List (List Char)} (areLabels : ∀ label ∈ decoded, IsLabel label) :
    ∀ char ∈ join ['.'] (decoded.map encodeLabel),
      isAscii char = true ∧ char.toLower = char := by
  intro char member
  rcases mem_join member with isDot | ⟨part, isPart, inPart⟩
  · rw [List.mem_singleton.mp isDot]
    decide
  · obtain ⟨label, isMember, rfl⟩ := List.mem_map.mp isPart
    have isWritten := (areLabels label isMember).isWritten_encodeLabel char inPart
    exact ⟨isWritten.ascii, isWritten.lower⟩

theorem asciiLower_eq_self {chars : List Char} (lower : ∀ char ∈ chars, char.toLower = char) :
    asciiLower chars = chars :=
  (List.map_congr_left lower).trans (List.map_id chars)

/-- Mapping changes nothing of a name in small ASCII letters. -/
theorem map?_eq_some {chars : List Char}
    (plain : ∀ char ∈ chars, isAscii char = true ∧ char.toLower = char) :
    map? chars = some chars := by
  have eachKept : chars.mapM mapChar? = some (chars.map fun char => [char]) := by
    rw [mapM_eq_some_iff, List.map_map]
    refine List.map_congr_left fun char member => ?_
    obtain ⟨ascii, lower⟩ := plain char member
    rw [mapChar?, if_pos ascii, lower]
    rfl
  have small : (chars.all fun char => char.toNat < 0x300) = true := by
    refine List.all_eq_true.mpr fun char member => decide_eq_true ?_
    have ascii := of_decide_eq_true (plain char member).1
    omega
  have joined : (chars.map fun char => [char]).flatten = chars := by
    rw [← List.flatMap_def, List.flatMap_singleton']
  rw [map?, eachKept, Option.map_some, joined, normalizeC, if_pos small]

/-- The labels that an ASCII form stands for, when it is not that of a plain name. -/
theorem exists_labels_of_asciiForm? {chars name : List Char} (notPlain : isPlain chars = false)
    (read : asciiForm? chars = some name) :
    ∃ decoded, decoded ≠ [] ∧ (∀ label ∈ decoded, IsLabel label) ∧
      (decoded.any (·.any isRightToLeft) && !decoded.all followsDirectionRule) = false ∧
      name = join ['.'] (decoded.map encodeLabel) := by
  rw [asciiForm?, if_neg (by simp [notPlain])] at read
  obtain ⟨mapped, _, next⟩ := Option.bind_eq_some_iff.mp read
  obtain ⟨decoded, areDecoded, finished⟩ := Option.bind_eq_some_iff.mp next
  have items := mapM_eq_some_iff.mp areDecoded
  split at finished
  · exact nomatch finished
  · rename_i followsRule
    refine ⟨decoded, ?_, ?_, Bool.eq_false_iff.mpr followsRule,
      (Option.some.inj finished).symm⟩
    · rintro rfl
      exact pieces_ne_nil _ _ (List.map_eq_nil_iff.mp items)
    · intro label member
      have isResult : some label ∈ (labels mapped).map decodeLabel? := by
        rw [items]
        exact List.mem_map_of_mem member
      obtain ⟨written, isWritten, read⟩ := List.mem_map.mp isResult
      refine isLabel_of_decodeLabel? (fun dot => ?_) read
      have separates := separates_eq_false_of_mem_pieces isWritten '.' dot
      exact absurd separates (by decide)

/-- The ASCII form of a name of labels is what they are written as. -/
theorem asciiForm?_join {decoded : List (List Char)} (notEmpty : decoded ≠ [])
    (areLabels : ∀ label ∈ decoded, IsLabel label)
    (followsRule : (decoded.any (·.any isRightToLeft) &&
      !decoded.all followsDirectionRule) = false) :
    asciiForm? (join ['.'] (decoded.map encodeLabel)) =
      some (join ['.'] (decoded.map encodeLabel)) := by
  have plain := plain_join areLabels
  have lower := asciiLower_eq_self fun char member => (plain char member).2
  have cut := labels_join notEmpty areLabels
  have readBack : (decoded.map encodeLabel).mapM decodeLabel? = some decoded := by
    rw [mapM_eq_some_iff, List.map_map]
    exact List.map_congr_left fun label member => (areLabels label member).decodeLabel?_encodeLabel
  unfold asciiForm?
  split
  · rw [lower]
  · rw [map?_eq_some plain]
    simp only [Option.bind_eq_bind, Option.bind_some, cut, readBack]
    rw [if_neg (by simp [followsRule])]

theorem asciiForm?_asciiForm? {chars name : List Char} (read : asciiForm? chars = some name) :
    asciiForm? name = some name ∧ ∀ char ∈ name, isAscii char = true ∧ char.toLower = char := by
  cases plain : isPlain chars with
  | true =>
      rw [asciiForm?, if_pos plain] at read
      obtain rfl := Option.some.inj read
      obtain ⟨ascii, noMark⟩ := Bool.and_eq_true_iff.mp plain
      have allPlain : ∀ char ∈ asciiLower chars, isAscii char = true ∧ char.toLower = char := by
        intro char member
        obtain ⟨capital, isMember, rfl⟩ := List.mem_map.mp member
        have isAscii := List.all_eq_true.mp ascii capital isMember
        exact ⟨(toLower_ascii capital isAscii).2, toLower_toLower capital⟩
      have stillPlain : isPlain (asciiLower chars) = true := by
        rw [isPlain, asciiLower_asciiLower,
          List.all_eq_true.mpr fun char member => (allPlain char member).1, noMark]
        rfl
      exact ⟨by rw [asciiForm?, if_pos stillPlain, asciiLower_asciiLower], allPlain⟩
  | false =>
      obtain ⟨decoded, notEmpty, areLabels, followsRule, rfl⟩ :=
        exists_labels_of_asciiForm? plain read
      exact ⟨asciiForm?_join notEmpty areLabels followsRule, plain_join areLabels⟩

theorem toAscii?_eq_some_iff {chars name : List Char} :
    toAscii? chars = some name ↔
      asciiForm? chars = some name ∧ ∀ char ∈ name, isForbidden char = false := by
  unfold toAscii?
  constructor
  · intro read
    split at read
    · exact nomatch read
    · rename_i form isForm
      split at read
      · exact nomatch read
      · rename_i clean
        obtain rfl := Option.some.inj read
        refine ⟨isForm, fun char member => Bool.eq_false_iff.mpr fun forbidden => ?_⟩
        exact clean (List.any_eq_true.mpr ⟨char, member, forbidden⟩)
  · rintro ⟨isForm, clean⟩
    rw [isForm]
    refine if_neg fun refused => ?_
    obtain ⟨char, member, forbidden⟩ := List.any_eq_true.mp refused
    rw [clean char member] at forbidden
    exact absurd forbidden Bool.false_ne_true

/-- The ASCII form of a name is its own ASCII form. -/
theorem toAscii?_toAscii? {chars name : List Char} (read : toAscii? chars = some name) :
    toAscii? name = some name := by
  obtain ⟨isForm, clean⟩ := toAscii?_eq_some_iff.mp read
  exact toAscii?_eq_some_iff.mpr ⟨(asciiForm?_asciiForm? isForm).1, clean⟩

/-- An ASCII form holds ASCII characters that may stand in a name. -/
theorem clean_of_toAscii? {chars name : List Char} (read : toAscii? chars = some name) :
    ∀ char ∈ name, isAscii char = true ∧ isForbidden char = false := by
  obtain ⟨isForm, clean⟩ := toAscii?_eq_some_iff.mp read
  exact fun char member => ⟨((asciiForm?_asciiForm? isForm).2 char member).1, clean char member⟩

/-- An ASCII form has no capital letters. -/
theorem asciiLower_of_toAscii? {chars name : List Char} (read : toAscii? chars = some name) :
    asciiLower name = name :=
  asciiLower_eq_self fun char member =>
    ((asciiForm?_asciiForm? (toAscii?_eq_some_iff.mp read).1).2 char member).2

end PublicSite.Url.Domain
