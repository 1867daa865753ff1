import Mathlib.Data.List.Sort
import Mathlib.Tactic.Ring
import PublicSite.Url.Punycode

/-!
# Punycode is read back

A label is written as the digits of differences, and each difference says how many
places the reader has to pass before it inserts the next character.  The reader passes
places in the order in which the writer counts them: through the label that it has so
far, once for every code point.  One equation between the two counts carries the whole
proof, and every label is read back from what it was written as.
-/

namespace PublicSite.Url.Punycode

/-! ## Digits -/

/-- A character that stands for a digit. -/
def isDigitChar (char : Char) : Bool :=
  char.isLower || char.isDigit

theorem isDigitChar_digitChar : ∀ value < 36, isDigitChar (digitChar value) = true := by
  decide

theorem digitValue?_digitChar : ∀ value < 36, digitValue? (digitChar value) = some value := by
  decide

/-- The digit that is written when more digits follow. -/
theorem digit_lt {limit : Nat} (small : limit ≤ 26) (rest : Nat) :
    limit + rest % (36 - limit) < 36 := by
  have below : rest % (36 - limit) < 36 - limit := Nat.mod_lt rest (by omega)
  omega

theorem isDigitChar_encodeDelta {bias place delta : Nat} {char : Char}
    (member : char ∈ encodeDelta bias place delta) : isDigitChar char = true := by
  induction place, delta using encodeDelta.induct bias with
  | case1 place delta limit last =>
      have small : limit ≤ 26 := threshold_le place bias
      rw [encodeDelta, if_pos last] at member
      obtain rfl := List.mem_singleton.mp member
      exact isDigitChar_digitChar delta (by omega)
  | case2 place delta limit more ih =>
      have small : limit ≤ 26 := threshold_le place bias
      rw [encodeDelta, if_neg more] at member
      rcases List.mem_cons.mp member with rfl | later
      · exact isDigitChar_digitChar _ (digit_lt small _)
      · exact ih later

/-- A difference is read back, whatever follows its digits. -/
theorem decodeDelta_encodeDelta (bias place delta weight total : Nat) (rest : List Char) :
    decodeDelta bias place weight total (encodeDelta bias place delta ++ rest) =
      some (total + delta * weight, rest) := by
  induction place, delta using encodeDelta.induct bias generalizing weight total with
  | case1 place delta limit last =>
      have small : limit ≤ 26 := threshold_le place bias
      have read := digitValue?_digitChar delta (by omega)
      rw [encodeDelta, if_pos last, List.singleton_append]
      simp only [decodeDelta, read]
      rw [if_pos last]
  | case2 place delta limit more ih =>
      simp only [limit] at more ih
      have small := threshold_le place bias
      have read := digitValue?_digitChar _
        (digit_lt small (delta - threshold place bias))
      rw [encodeDelta, if_neg more, List.cons_append]
      simp only [decodeDelta, read]
      rw [if_neg (by omega), ih]
      generalize threshold place bias = limit at small more
      -- The digit and the quotient make up the difference again.
      have parts : limit + (delta - limit) % (36 - limit) +
          (36 - limit) * ((delta - limit) / (36 - limit)) = delta := by
        have divided := Nat.mod_add_div (delta - limit) (36 - limit)
        omega
      have whole : total + (limit + (delta - limit) % (36 - limit)) * weight +
          (delta - limit) / (36 - limit) * (weight * (36 - limit)) = total + delta * weight := by
        conv_rhs => rw [← parts]
        ring
      rw [whole]

/-! ## One inserted character -/

/-- What the reader does with a difference. -/
theorem decodeFrom_of_decodeDelta {code position bias delta : Nat} {isFirst : Bool}
    {label chars rest : List Char} (found : decodeDelta bias 36 1 0 chars = some (delta, rest)) :
    decodeFrom code position bias isFirst label chars =
      let next := code + (position + delta) / (label.length + 1)
      let place := (position + delta) % (label.length + 1)
      if next > 0x10FFFF ∨ (0xD800 ≤ next ∧ next ≤ 0xDFFF) then none
      else
        decodeFrom next (place + 1) (adapt delta (label.length + 1) isFirst) false
          (label.take place ++ Char.ofNat next :: label.drop place) rest := by
  have notEmpty : ¬ chars.isEmpty = true := by
    intro empty
    rw [List.isEmpty_iff.mp empty, decodeDelta] at found
    cases found
  rw [decodeFrom, if_neg notEmpty]
  split
  · rename_i unread
    rw [found] at unread
    cases unread
  · rename_i readDelta readRest read
    rw [found] at read
    obtain ⟨rfl, rfl⟩ := Prod.mk.inj (Option.some.inj read)
    rfl

/-- The reader inserts a character at the place that a difference leads to. -/
theorem decodeFrom_encodeDelta {code position bias delta place : Nat} {isFirst : Bool}
    {label : List Char} {char : Char} (upTo : code ≤ char.toNat) (within : place ≤ label.length)
    (balance : code * (label.length + 1) + position + delta =
      char.toNat * (label.length + 1) + place) (rest : List Char) :
    decodeFrom code position bias isFirst label (encodeDelta bias 36 delta ++ rest) =
      decodeFrom char.toNat (place + 1) (adapt delta (label.length + 1) isFirst) false
        (label.take place ++ char :: label.drop place) rest := by
  have read : decodeDelta bias 36 1 0 (encodeDelta bias 36 delta ++ rest) = some (delta, rest) := by
    rw [decodeDelta_encodeDelta, Nat.zero_add, Nat.mul_one]
  obtain ⟨more, codes⟩ := Nat.exists_eq_add_of_le upTo
  have advanced : position + delta = place + more * (label.length + 1) := by
    rw [codes, Nat.add_mul] at balance
    omega
  have steps : (position + delta) / (label.length + 1) = more := by
    rw [advanced, Nat.add_mul_div_right _ _ (Nat.succ_pos _), Nat.div_eq_of_lt (by omega),
      Nat.zero_add]
  have remainder : (position + delta) % (label.length + 1) = place := by
    rw [advanced, Nat.add_mul_mod_self_right, Nat.mod_eq_of_lt (by omega)]
  have valid : ¬ (char.toNat > 0x10FFFF ∨ (0xD800 ≤ char.toNat ∧ char.toNat ≤ 0xDFFF)) := by
    have isChar : char.toNat < 0xD800 ∨ 0xDFFF < char.toNat ∧ char.toNat < 0x110000 := char.valid
    omega
  rw [decodeFrom_of_decodeDelta read]
  simp only [steps, remainder, ← codes, if_neg valid, Char.ofNat_toNat]

/-! ## The writer and the reader in step -/

/-- What stands before the digits: the characters that are ASCII, with a hyphen. -/
def front (basic : List Char) : List Char :=
  if basic.isEmpty then [] else basic ++ ['-']

/-- With the digits that are written the reader has come to the label `known`.  From
where it stands to the place `passed` of the code point `next` it has to pass as many
places as the writer has counted since. -/
structure InStep (basic known : List Char) (next passed : Nat) (state : EncodeState)
    (digits : List Char) (code position : Nat) : Prop where
  output : state.output = front basic ++ digits
  areDigits : ∀ char ∈ digits, isDigitChar char = true
  reads : ∀ rest, decodeFrom 0x80 0 72 true basic (digits ++ rest) =
    decodeFrom code position state.bias (state.handled == basic.length) known rest
  handled : state.handled = known.length
  grown : basic.length ≤ known.length
  upTo : code ≤ next
  balance : code * (known.length + 1) + position + state.delta =
    next * (known.length + 1) + passed

/-- The reader is in step with the writer, who has passed the characters `done` and
has `ahead` before him. -/
def Follows (basic : List Char) (next : Nat) (done ahead : List Char) (state : EncodeState) :
    Prop :=
  ∃ digits code position, InStep basic (done ++ ahead) next done.length state digits code position

section Writing

variable {basic done ahead : List Char} {next : Nat} {state : EncodeState}

/-- A character that the reader has already is one place. -/
theorem Follows.pass {char : Char} (follows : Follows basic next done (char :: ahead) state) :
    Follows basic next (done ++ [char]) ahead { state with delta := state.delta + 1 } := by
  obtain ⟨digits, code, position, inStep⟩ := follows
  have same : done ++ [char] ++ ahead = done ++ char :: ahead := by simp
  refine ⟨digits, code, position, ?_⟩
  rw [same]
  refine
    { output := inStep.output, areDigits := inStep.areDigits, reads := inStep.reads
      handled := inStep.handled, grown := inStep.grown, upTo := inStep.upTo, balance := ?_ }
  have balance := inStep.balance
  have onePlace : (done ++ [char]).length = done.length + 1 := by simp
  rw [onePlace]
  dsimp only
  omega

/-- A character that the reader lacks is inserted at its place. -/
theorem Follows.insert {char : Char} (follows : Follows basic char.toNat done ahead state) :
    Follows basic char.toNat (done ++ [char]) ahead
      { output := state.output ++ encodeDelta state.bias 36 state.delta
        delta := 0
        bias := adapt state.delta (state.handled + 1) (state.handled == basic.length)
        handled := state.handled + 1 } := by
  obtain ⟨digits, code, position, inStep⟩ := follows
  have inserted : (done ++ ahead).take done.length ++ char :: (done ++ ahead).drop done.length =
      done ++ [char] ++ ahead := by simp
  have longer : (done ++ [char] ++ ahead).length = (done ++ ahead).length + 1 := by
    simp only [List.length_append, List.length_singleton]
    omega
  have grown := inStep.grown
  have notFirst : (state.handled + 1 == basic.length) = false := by
    rw [inStep.handled, beq_eq_false_iff_ne]
    omega
  refine ⟨digits ++ encodeDelta state.bias 36 state.delta, char.toNat, done.length + 1, ?_⟩
  refine
    { output := by simp [inStep.output]
      areDigits := ?_, reads := ?_, handled := by rw [longer, inStep.handled]
      grown := by omega, upTo := Nat.le_refl _, balance := by simp }
  · intro digit member
    rcases List.mem_append.mp member with before | written
    · exact inStep.areDigits digit before
    · exact isDigitChar_encodeDelta written
  · intro rest
    rw [List.append_assoc, inStep.reads,
      decodeFrom_encodeDelta inStep.upTo (by simp) inStep.balance, inserted, notFirst,
      inStep.handled]

/-- The writer passes the whole label for one code point. -/
theorem Follows.foldl {rest : List Char}
    (follows : Follows basic next done (rest.filter fun char => char.toNat < next) state) :
    Follows basic next (done ++ rest.filter fun char => char.toNat ≤ next) []
      (rest.foldl (encodeChar basic.length next) state) := by
  induction rest generalizing done state with
  | nil => simpa using follows
  | cons char rest ih =>
      rw [List.foldl_cons, encodeChar]
      rcases Nat.lt_trichotomy char.toNat next with less | same | more
      · rw [List.filter_cons_of_pos (by simpa using less)] at follows
        rw [if_pos less, List.filter_cons_of_pos (by simpa using less.le),
          ← List.singleton_append, ← List.append_assoc]
        exact ih follows.pass
      · subst same
        rw [List.filter_cons_of_neg (by simp)] at follows
        rw [if_neg (Nat.lt_irrefl _), if_pos rfl, List.filter_cons_of_pos (by simp),
          ← List.singleton_append, ← List.append_assoc]
        exact ih follows.insert
      · rw [List.filter_cons_of_neg (by simpa using more.le)] at follows
        rw [if_neg (by omega), if_neg (by omega), List.filter_cons_of_neg (by simpa using more)]
        exact ih follows

/-- The places of the code points that no character has are counted at once. -/
theorem Follows.advance {later : Nat} (follows : Follows basic next [] ahead state)
    (upTo : next ≤ later) :
    Follows basic later [] ahead
      { state with delta := state.delta + (later - next) * (state.handled + 1) } := by
  obtain ⟨digits, code, position, inStep⟩ := follows
  have balance := inStep.balance
  refine ⟨digits, code, position, ?_⟩
  refine
    { output := inStep.output, areDigits := inStep.areDigits, reads := inStep.reads
      handled := inStep.handled, grown := inStep.grown, upTo := inStep.upTo.trans upTo
      balance := ?_ }
  obtain ⟨more, rfl⟩ := Nat.exists_eq_add_of_le upTo
  rw [inStep.handled, Nat.add_sub_cancel_left, Nat.add_mul]
  dsimp only
  omega

/-- Behind the last character the next code point begins. -/
theorem Follows.finish (follows : Follows basic next done [] state) :
    Follows basic (next + 1) [] done { state with delta := state.delta + 1 } := by
  obtain ⟨digits, code, position, inStep⟩ := follows
  rw [List.append_nil] at inStep
  have balance := inStep.balance
  refine ⟨digits, code, position, ?_⟩
  refine
    { output := inStep.output, areDigits := inStep.areDigits, reads := inStep.reads
      handled := inStep.handled, grown := inStep.grown, upTo := Nat.le_succ_of_le inStep.upTo
      balance := ?_ }
  rw [List.nil_append, Nat.add_mul, Nat.one_mul, List.length_nil]
  dsimp only
  omega

/-- When all code points of the label are written, the reader has the whole label. -/
theorem Follows.encodeCodes {label : List Char} {codes : List Nat}
    (follows : Follows basic next [] (label.filter fun char => char.toNat < next) state)
    (increasing : codes.Pairwise (· < ·)) (notLess : ∀ code ∈ codes, next ≤ code)
    (complete : ∀ char ∈ label, next ≤ char.toNat → char.toNat ∈ codes) :
    ∃ digits, (encodeCodes label basic.length codes next state).output = front basic ++ digits ∧
      (∀ char ∈ digits, isDigitChar char = true) ∧
      decodeFrom 0x80 0 72 true basic digits = some label := by
  induction codes generalizing next state with
  | nil =>
      have whole : (label.filter fun char => char.toNat < next) = label := by
        refine List.filter_eq_self.mpr fun char member => ?_
        rw [decide_eq_true_iff, ← Nat.not_le]
        exact fun late => List.not_mem_nil (complete char member late)
      rw [whole] at follows
      obtain ⟨digits, code, position, inStep⟩ := follows
      refine ⟨digits, inStep.output, inStep.areDigits, ?_⟩
      have read := inStep.reads []
      rw [List.append_nil] at read
      rw [read, decodeFrom]
      rfl
  | cons code others ih =>
      obtain ⟨less, increasing⟩ := List.pairwise_cons.mp increasing
      have upTo := notLess code List.mem_cons_self
      have between : (label.filter fun char => char.toNat < next) =
          label.filter fun char => char.toNat < code := by
        refine List.filter_congr fun char member => decide_eq_decide.mpr ⟨by omega, fun early => ?_⟩
        by_contra late
        rcases List.mem_cons.mp (complete char member (Nat.not_lt.mp late)) with same | isLater
        · omega
        · have later := less _ isLater
          omega
      rw [between] at follows
      have passed := (follows.advance upTo).foldl.finish
      rw [List.nil_append] at passed
      have nextFilter : (label.filter fun char => char.toNat ≤ code) =
          label.filter fun char => char.toNat < code + 1 :=
        List.filter_congr fun char _ => decide_eq_decide.mpr Nat.lt_succ_iff.symm
      rw [nextFilter] at passed
      refine ih passed increasing (fun other member => less other member) ?_
      intro char member late
      refine (List.mem_cons.mp (complete char member (by omega))).resolve_left ?_
      omega

end Writing

/-! ## The code points of a label -/

theorem mem_dedup {codes : List Nat} {code : Nat} : code ∈ encode.dedup codes ↔ code ∈ codes := by
  induction codes using encode.dedup.induct with
  | case1 => simp [encode.dedup]
  | case2 only => simp [encode.dedup]
  | case3 rest first ih => simp [encode.dedup, ih]
  | case4 first second rest different ih => simp [encode.dedup, different, ih]

/-- The members of a sorted list are increasing when each stands once. -/
theorem pairwise_dedup {codes : List Nat} (sorted : codes.Pairwise (· ≤ ·)) :
    (encode.dedup codes).Pairwise (· < ·) := by
  induction codes using encode.dedup.induct with
  | case1 => exact List.Pairwise.nil
  | case2 only => exact List.pairwise_singleton _ only
  | case3 rest first ih =>
      rw [encode.dedup, if_pos rfl]
      exact ih sorted.tail
  | case4 first second rest different ih =>
      rw [encode.dedup, if_neg different]
      refine List.pairwise_cons.mpr ⟨fun code member => ?_, ih sorted.tail⟩
      have least := (List.pairwise_cons.mp sorted).1
      have tailLeast := (List.pairwise_cons.mp sorted.tail).1
      have notLess := least second List.mem_cons_self
      rcases List.mem_cons.mp (mem_dedup.mp member) with rfl | later
      · omega
      · have notLater := tailLeast code later
        omega

/-- The code points beyond ASCII of a label, in increasing order and each once. -/
def codePoints (label : List Char) : List Nat :=
  encode.dedup ((label.filter fun char => char.toNat ≥ 0x80).map Char.toNat).mergeSort

theorem mem_codePoints {label : List Char} {code : Nat} :
    code ∈ codePoints label ↔ ∃ char ∈ label, 0x80 ≤ char.toNat ∧ char.toNat = code := by
  simp [codePoints, mem_dedup, and_assoc]

theorem pairwise_codePoints (label : List Char) : (codePoints label).Pairwise (· < ·) := by
  exact pairwise_dedup (List.pairwise_mergeSort' (· ≤ ·) _)

/-! ## Whole labels -/

/-- The characters of a label that are ASCII. -/
def basicPart (label : List Char) : List Char :=
  label.filter fun char => char.toNat < 0x80

/-- A label is written as its ASCII characters, a hyphen and digits, with which the
reader comes back to the label. -/
theorem exists_encode_eq (label : List Char) :
    ∃ digits, encode label = front (basicPart label) ++ digits ∧
      (∀ char ∈ digits, isDigitChar char = true) ∧
      decodeFrom 0x80 0 72 true (basicPart label) digits = some label := by
  have start : Follows (basicPart label) 0x80 [] (basicPart label)
      { output := front (basicPart label), delta := 0, bias := 72
        handled := (basicPart label).length } :=
    ⟨[], 0x80, 0,
      { output := (List.append_nil _).symm, areDigits := List.forall_mem_nil _
        reads := fun rest => by simp, handled := rfl, grown := Nat.le_refl _
        upTo := Nat.le_refl _, balance := rfl }⟩
  have notLess : ∀ code ∈ codePoints label, 0x80 ≤ code := by
    intro code member
    obtain ⟨char, _, beyond, rfl⟩ := mem_codePoints.mp member
    exact beyond
  have complete : ∀ char ∈ label, 0x80 ≤ char.toNat → char.toNat ∈ codePoints label :=
    fun char member beyond => mem_codePoints.mpr ⟨char, member, beyond, rfl⟩
  exact start.encodeCodes (pairwise_codePoints label) notLess complete

theorem ne_hyphen_of_isDigitChar {char : Char} (isDigit : isDigitChar char = true) :
    char ≠ '-' := by
  rintro rfl
  exact absurd isDigit (by decide)

/-- The digits stand behind the last hyphen. -/
theorem split_front_append (basic : List Char) {digits : List Char}
    (areDigits : ∀ char ∈ digits, isDigitChar char = true) :
    ((front basic ++ digits).reverse.takeWhile (· != '-')).reverse = digits ∧
      (((front basic ++ digits).reverse.dropWhile (· != '-')).drop 1).reverse = basic := by
  have passes : ∀ char ∈ digits.reverse, (char != '-') = true := by
    intro char member
    rw [bne_iff_ne]
    exact ne_hyphen_of_isDigitChar (areDigits char (List.mem_reverse.mp member))
  rw [List.reverse_append, List.takeWhile_append_of_pos passes, List.dropWhile_append_of_pos passes]
  cases basic with
  | nil => simp [front]
  | cons first rest => simp [front]

/-- Every label is read back from what it was written as. -/
theorem decode?_encode (label : List Char) : decode? (encode label) = some label := by
  obtain ⟨digits, written, areDigits, read⟩ := exists_encode_eq label
  obtain ⟨digits_eq, basic_eq⟩ := split_front_append (basicPart label) areDigits
  have isBasic : ((basicPart label).all fun char => char.toNat < 0x80) = true := by
    simp [basicPart]
  rw [decode?, written]
  simp only [digits_eq, basic_eq]
  rw [if_pos isBasic, read]

/-- What a label is written with: its own ASCII characters, hyphens and digits. -/
theorem mem_encode {label : List Char} {char : Char} (member : char ∈ encode label) :
    (char ∈ label ∧ char.toNat < 0x80) ∨ char = '-' ∨ isDigitChar char = true := by
  obtain ⟨digits, written, areDigits, _⟩ := exists_encode_eq label
  rw [written] at member
  rcases List.mem_append.mp member with inFront | inDigits
  · unfold front at inFront
    split at inFront
    · exact absurd inFront List.not_mem_nil
    · rcases List.mem_append.mp inFront with isBasic | isHyphen
      · exact Or.inl (by simpa [basicPart] using isBasic)
      · exact Or.inr (Or.inl (List.mem_singleton.mp isHyphen))
  · exact Or.inr (Or.inr (areDigits char inDigits))

/-! ## What is read -/

theorem toNat_ofNat {code : Nat}
    (valid : ¬ (code > 0x10FFFF ∨ (0xD800 ≤ code ∧ code ≤ 0xDFFF))) :
    (Char.ofNat code).toNat = code := by
  have isChar : code.isValidChar := by
    rcases Nat.lt_or_ge code 0xD800 with below | above
    · exact Or.inl below
    · exact Or.inr ⟨by omega, by omega⟩
  rw [Char.ofNat, dif_pos isChar]
  rfl

/-- Reading only inserts characters beyond ASCII. -/
theorem mem_decodeFrom {code position bias : Nat} {isFirst : Bool} {known chars label : List Char}
    (read : decodeFrom code position bias isFirst known chars = some label)
    (beyond : 0x80 ≤ code) {char : Char} (member : char ∈ label) :
    char ∈ known ∨ 0x80 ≤ char.toNat := by
  induction code, position, bias, isFirst, known, chars using decodeFrom.induct with
  | case1 code position bias isFirst known chars empty =>
      rw [decodeFrom, if_pos empty] at read
      obtain rfl := Option.some.inj read
      exact Or.inl member
  | case2 code position bias isFirst known chars more unread =>
      rw [decodeFrom, if_neg more] at read
      split at read
      · exact nomatch read
      · rename_i found
        rw [unread] at found
        exact nomatch found
  | case3 code position bias isFirst known chars more delta rest found count advanced next
      invalid =>
      rw [decodeFrom_of_decodeDelta found] at read
      dsimp only at read
      rw [if_pos invalid] at read
      exact nomatch read
  | case4 code position bias isFirst known chars more delta rest found count advanced next place
      valid ih =>
      rw [decodeFrom_of_decodeDelta found] at read
      dsimp only at read
      rw [if_neg valid] at read
      have nextBeyond : 0x80 ≤ next := Nat.le_add_right_of_le beyond
      rcases ih read nextBeyond with inserted | isBeyond
      · rcases List.mem_append.mp inserted with front | back
        · exact Or.inl (List.mem_of_mem_take front)
        · rcases List.mem_cons.mp back with rfl | later
          · exact Or.inr (by rw [toNat_ofNat valid]; exact nextBeyond)
          · exact Or.inl (List.mem_of_mem_drop later)
      · exact Or.inr isBeyond

/-- The characters that are read are those of the text or beyond ASCII. -/
theorem mem_of_decode? {encoded label : List Char} (read : decode? encoded = some label)
    {char : Char} (member : char ∈ label) : char ∈ encoded ∨ 0x80 ≤ char.toNat := by
  unfold decode? at read
  dsimp only at read
  split at read
  · rcases mem_decodeFrom read (Nat.le_refl _) member with isBasic | isBeyond
    · refine Or.inl (List.mem_reverse.mp ?_)
      exact (List.dropWhile_suffix _).subset (List.mem_of_mem_drop (List.mem_reverse.mp isBasic))
    · exact Or.inr isBeyond
  · exact nomatch read

end PublicSite.Url.Punycode
