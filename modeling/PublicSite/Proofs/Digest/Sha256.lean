import Mathlib.Algebra.Group.Nat.Defs
import Mathlib.Data.List.Basic
import Mathlib.Data.List.GetD
import Mathlib.Data.List.Induction
import PublicSite.Proofs.Digest.Rounds

/-!
# What a digest is

The rules of the hash function, apart from the way in which it is computed: how words are
written in bytes, what a message is padded to, which sixty-four words a block is spread
over, and how blocks take a state along.  By these rules a message has exactly one digest,
the one that is computed, whatever its length.
-/

namespace PublicSite.Digest

/-! ## Numbers in bytes -/

/-- The number that bytes spell, the most significant byte first. -/
def bigEndian (bytes : List UInt8) : Nat :=
  bytes.foldl (fun value byte => value * 256 + byte.toNat) 0

theorem bigEndian_append_singleton (bytes : List UInt8) (last : UInt8) :
    bigEndian (bytes ++ [last]) = bigEndian bytes * 256 + last.toNat := by
  rw [bigEndian, List.foldl_append]
  rfl

/-- Equally many bytes that spell the same number are the same. -/
theorem eq_of_bigEndian_eq {left right : List UInt8} (sameLength : left.length = right.length)
    (sameNumber : bigEndian left = bigEndian right) : left = right := by
  induction left using List.reverseRecOn generalizing right with
  | nil => exact (List.eq_nil_of_length_eq_zero sameLength.symm).symm
  | append_singleton front last ih =>
      rcases List.eq_nil_or_concat' right with rfl | ⟨otherFront, otherLast, rfl⟩
      · simp at sameLength
      · rw [bigEndian_append_singleton, bigEndian_append_singleton] at sameNumber
        have small := last.toNat_lt
        have otherSmall := otherLast.toNat_lt
        have sameLast : last = otherLast := UInt8.toNat_inj.mp (by omega)
        have sameFront : front = otherFront := by
          apply ih
          · simpa using sameLength
          · omega
        rw [sameFront, sameLast]

/-- Bits are added to a number that was moved past them. -/
theorem mul_or_eq_add {high low count : Nat} (small : low < 2 ^ count) :
    high * 2 ^ count ||| low = high * 2 ^ count + low := by
  rw [Nat.mul_comm, ← Nat.two_pow_add_eq_or_of_lt small]

/-- A byte that is moved within a word loses nothing. -/
theorem toNat_mul_mod (byte : UInt8) {scale : Nat} (small : scale ≤ 2 ^ 24) :
    byte.toNat * scale % 2 ^ 32 = byte.toNat * scale := by
  apply Nat.mod_eq_of_lt
  calc
    byte.toNat * scale ≤ 255 * 2 ^ 24 :=
      Nat.mul_le_mul (Nat.le_of_lt_succ byte.toNat_lt) small
    _ < 2 ^ 32 := by decide

theorem toNat_wordOfBytes (a b c d : UInt8) :
    (wordOfBytes a b c d).toNat = bigEndian [a, b, c, d] := by
  have smallB := b.toNat_lt
  have smallC := c.toNat_lt
  have two : a.toNat * 2 ^ 24 ||| b.toNat * 2 ^ 16 = (a.toNat * 256 + b.toNat) * 2 ^ 16 :=
    (mul_or_eq_add (by omega)).trans (by omega)
  have three : (a.toNat * 256 + b.toNat) * 2 ^ 16 ||| c.toNat * 2 ^ 8 =
      ((a.toNat * 256 + b.toNat) * 256 + c.toNat) * 2 ^ 8 :=
    (mul_or_eq_add (by omega)).trans (by omega)
  have four : ((a.toNat * 256 + b.toNat) * 256 + c.toNat) * 2 ^ 8 ||| d.toNat =
      ((a.toNat * 256 + b.toNat) * 256 + c.toNat) * 256 + d.toNat :=
    (mul_or_eq_add d.toNat_lt).trans (by omega)
  simp only [wordOfBytes, UInt32.toNat_or, UInt32.toNat_shiftLeft, UInt8.toNat_toUInt32,
    UInt32.reduceToNat, Nat.reduceMod, Nat.shiftLeft_eq, bigEndian, List.foldl_cons,
    List.foldl_nil]
  rw [toNat_mul_mod a (by decide), toNat_mul_mod b (by decide), toNat_mul_mod c (by decide),
    two, three, four, Nat.zero_mul, Nat.zero_add]

@[simp]
theorem bigEndian_bytesOfWord (word : UInt32) : bigEndian (bytesOfWord word) = word.toNat := by
  have small := word.toNat_lt
  simp only [bytesOfWord, bigEndian, List.foldl_cons, List.foldl_nil, UInt32.toNat_toUInt8,
    UInt32.toNat_shiftRight, UInt32.reduceToNat, Nat.reduceMod, Nat.shiftRight_eq_div_pow]
  omega

@[simp]
theorem bytesOfWord_wordOfBytes (a b c d : UInt8) :
    bytesOfWord (wordOfBytes a b c d) = [a, b, c, d] := by
  apply eq_of_bigEndian_eq
  · rfl
  · rw [bigEndian_bytesOfWord, toNat_wordOfBytes]

/-- The words of bytes that words were written in are those words. -/
@[simp]
theorem wordsOfBytes_flatMap_bytesOfWord (words : List UInt32) :
    wordsOfBytes (words.flatMap bytesOfWord) = words := by
  induction words with
  | nil => rfl
  | cons word rest ih =>
      rw [List.flatMap_cons]
      change wordOfBytes _ _ _ _ :: wordsOfBytes (rest.flatMap bytesOfWord) = _
      rw [ih]
      congr 1
      apply UInt32.toNat_inj.mp
      rw [toNat_wordOfBytes]
      exact bigEndian_bytesOfWord word

/-- Bytes that come in fours are all kept in words. -/
theorem wordsOfBytes_of_length {bytes : List UInt8} {count : Nat}
    (whole : bytes.length = 4 * count) :
    (wordsOfBytes bytes).flatMap bytesOfWord = bytes ∧ (wordsOfBytes bytes).length = count := by
  induction count generalizing bytes with
  | zero =>
      obtain rfl := List.eq_nil_of_length_eq_zero whole
      exact ⟨rfl, rfl⟩
  | succ count ih =>
      match bytes, whole with
      | a :: b :: c :: d :: rest, whole =>
          have restWhole : rest.length = 4 * count := by
            simp only [List.length_cons] at whole
            omega
          obtain ⟨sameBytes, sameCount⟩ := ih restWhole
          rw [wordsOfBytes, List.flatMap_cons, bytesOfWord_wordOfBytes, sameBytes,
            List.length_cons, sameCount]
          exact ⟨rfl, rfl⟩

/-- Words written in bytes: each is the number that four bytes spell. -/
def IsWritten (words : List UInt32) (bytes : List UInt8) : Prop :=
  ∃ groups : List (List UInt8), groups.flatten = bytes ∧
    List.Forall₂ (fun word group => group.length = 4 ∧ bigEndian group = word.toNat) words groups

theorem isWritten_iff {words : List UInt32} {bytes : List UInt8} :
    IsWritten words bytes ↔ bytes = words.flatMap bytesOfWord := by
  constructor
  · rintro ⟨groups, rfl, areGroups⟩
    induction areGroups with
    | nil => rfl
    | @cons word group words groups isGroup _ ih =>
        have same : group = bytesOfWord word :=
          eq_of_bigEndian_eq isGroup.1 (isGroup.2.trans (bigEndian_bytesOfWord word).symm)
        rw [List.flatten_cons, List.flatMap_cons, same, ih]
  · rintro rfl
    refine ⟨words.map bytesOfWord, List.flatMap_def.symm, ?_⟩
    rw [List.forall₂_map_right_iff, List.forall₂_same]
    exact fun word _ => ⟨rfl, bigEndian_bytesOfWord word⟩

/-! ## Padding -/

@[simp]
theorem length_lengthBytes (size : Nat) : (lengthBytes size).length = 8 := by
  simp [lengthBytes]

theorem bigEndian_lengthBytes (size : Nat) :
    bigEndian (lengthBytes size) = size * 8 % 2 ^ 64 := by
  simp only [bigEndian, lengthBytes, List.range, List.range.loop, List.map_cons, List.map_nil,
    List.foldl_cons, List.foldl_nil, UInt8.toNat_ofNat', Nat.pow_eq, Nat.reduceSub,
    Nat.reducePow]
  omega

/-- What a message is padded to: a one bit and the fewest zeros behind it such that,
with the number of its bits in eight bytes, all blocks are whole. -/
def IsPadded (message padded : List UInt8) : Prop :=
  ∃ zeros field, padded = message ++ 0x80 :: List.replicate zeros 0 ++ field ∧
    field.length = 8 ∧ bigEndian field = message.length * 8 % 2 ^ 64 ∧
    (message.length + 1 + zeros + 8) % 64 = 0 ∧
    ∀ fewer < zeros, (message.length + 1 + fewer + 8) % 64 ≠ 0

theorem isPadded_padMessage (message : List UInt8) : IsPadded message (padMessage message) := by
  refine ⟨_, _, rfl, length_lengthBytes _, bigEndian_lengthBytes _, ?_, ?_⟩
  · omega
  · intro fewer isFewer
    omega

/-- A message is padded in one way. -/
theorem isPadded_iff {message padded : List UInt8} :
    IsPadded message padded ↔ padded = padMessage message := by
  constructor
  · rintro ⟨zeros, field, rfl, fieldLength, fieldNumber, whole, least⟩
    -- Counts that fit differ by whole blocks, and the one that is computed is below a block.
    have sameZeros : zeros = (119 - message.length % 64) % 64 := by
      have notFewer : ¬ (119 - message.length % 64) % 64 < zeros := fun isFewer =>
        least _ isFewer (by omega)
      omega
    have sameField : field = lengthBytes message.length := by
      apply eq_of_bigEndian_eq
      · rw [fieldLength, length_lengthBytes]
      · rw [fieldNumber, bigEndian_lengthBytes]
    rw [padMessage, sameField, sameZeros]
  · rintro rfl
    exact isPadded_padMessage message

/-- A padded message is cut into whole blocks. -/
theorem IsPadded.exists_length {message padded : List UInt8} (isPadded : IsPadded message padded) :
    ∃ count, padded.length = 64 * count := by
  obtain ⟨zeros, field, rfl, fieldLength, _, whole, _⟩ := isPadded
  refine ⟨(message.length + 1 + zeros + 8) / 64, ?_⟩
  simp only [List.length_append, List.length_cons, List.length_replicate, fieldLength]
  omega

/-! ## The words of a block -/

/-- Every word from the seventeenth on follows from the sixteen before it. -/
def AreScheduled (words : List UInt32) : Prop :=
  ∀ place, place + 16 < words.length → words.getD (place + 16) 0 =
    smallSigma 17 19 10 (words.getD (place + 14) 0) + words.getD (place + 9) 0 +
      smallSigma 7 18 3 (words.getD (place + 1) 0) + words.getD place 0

theorem areScheduled_of_length_le {words : List UInt32} (short : words.length ≤ 16) :
    AreScheduled words := by
  intro place inside
  omega

theorem scheduleNext_eq (reversed : List UInt32) :
    scheduleNext reversed =
      reversed.getD 15 0 + smallSigma 7 18 3 (reversed.getD 14 0) + reversed.getD 6 0 +
        smallSigma 17 19 10 (reversed.getD 1 0) := by
  rw [smallSigma_eq (by decide) (by decide), smallSigma_eq (by decide) (by decide)]
  rfl

/-- The next word is the one that the rule asks for. -/
theorem scheduleNext_reverse {words : List UInt32} {place : Nat}
    (length_eq : words.length = place + 16) :
    scheduleNext words.reverse =
      smallSigma 17 19 10 (words.getD (place + 14) 0) + words.getD (place + 9) 0 +
        smallSigma 7 18 3 (words.getD (place + 1) 0) + words.getD place 0 := by
  have fromEnd : ∀ back < 16, words.reverse.getD back 0 = words.getD (place + 15 - back) 0 := by
    intro back near
    rw [List.getD_reverse back (by omega), length_eq]
    rfl
  rw [scheduleNext_eq, fromEnd 1 (by decide), fromEnd 6 (by decide), fromEnd 14 (by decide),
    fromEnd 15 (by decide)]
  change words.getD place 0 + smallSigma 7 18 3 (words.getD (place + 1) 0) +
    words.getD (place + 9) 0 + smallSigma 17 19 10 (words.getD (place + 14) 0) = _
  ac_rfl

theorem AreScheduled.append {words : List UInt32} (scheduled : AreScheduled words) :
    AreScheduled (words ++ [scheduleNext words.reverse]) := by
  intro place inside
  rw [List.length_append, List.length_singleton] at inside
  have earlier : ∀ other < words.length,
      (words ++ [scheduleNext words.reverse]).getD other 0 = words.getD other 0 :=
    fun other before => List.getD_append words _ 0 other before
  -- The rule only reads words that were there before, also for the word that is new.
  rw [earlier (place + 14) (by omega), earlier (place + 9) (by omega),
    earlier (place + 1) (by omega), earlier place (by omega)]
  by_cases old : place + 16 < words.length
  · rw [earlier _ old]
    exact scheduled place old
  · have length_eq : words.length = place + 16 := by omega
    rw [List.getD_append_right _ _ _ _ (by omega), length_eq, Nat.sub_self]
    exact scheduleNext_reverse length_eq

/-- Extending a schedule keeps its words and the rule. -/
theorem AreScheduled.extendSchedule {words : List UInt32} (scheduled : AreScheduled words)
    (count : Nat) :
    ∃ more, (extendSchedule count words.reverse).reverse = words ++ more ∧
      more.length = count ∧ AreScheduled (words ++ more) := by
  induction count generalizing words with
  | zero =>
      refine ⟨[], ?_, rfl, ?_⟩
      · rw [Digest.extendSchedule, List.reverse_reverse, List.append_nil]
      · rwa [List.append_nil]
  | succ count ih =>
      obtain ⟨more, extended, moreLength, moreScheduled⟩ := ih scheduled.append
      rw [List.reverse_append] at extended
      rw [List.append_assoc] at extended moreScheduled
      exact ⟨scheduleNext words.reverse :: more, extended, congrArg Nat.succ moreLength,
        moreScheduled⟩

/-- The rule decides all words but the first sixteen. -/
theorem AreScheduled.unique {left right : List UInt32} (leftScheduled : AreScheduled left)
    (rightScheduled : AreScheduled right) (sameLength : left.length = right.length)
    (sameBlock : left.take 16 = right.take 16) : left = right := by
  have same : ∀ place < left.length, left.getD place 0 = right.getD place 0 := by
    intro place
    induction place using Nat.strongRecOn with
    | ind place ih =>
        intro inside
        by_cases opening : place < 16
        · have sameOpening := congrArg (fun words => words.getD place 0) sameBlock
          simpa [List.getD_eq_getElem?_getD, List.getElem?_take_of_lt opening] using sameOpening
        · obtain ⟨start, rfl⟩ : ∃ start, place = start + 16 := ⟨place - 16, by omega⟩
          rw [leftScheduled start inside, rightScheduled start (by omega),
            ih (start + 14) (by omega) (by omega), ih (start + 9) (by omega) (by omega),
            ih (start + 1) (by omega) (by omega), ih start (by omega) (by omega)]
  apply List.ext_getElem sameLength
  intro place inLeft inRight
  simpa [List.getD_eq_getElem, inLeft, inRight] using same place inLeft

/-- The sixty-four words that a block is spread over: its own and those that follow by
the rule. -/
structure IsSchedule (block words : List UInt32) : Prop where
  length_eq : words.length = 64
  opens : words.take 16 = block
  scheduled : AreScheduled words

theorem isSchedule_schedule {block : List UInt32} (whole : block.length = 16) :
    IsSchedule block (schedule block) := by
  have opening : AreScheduled block := areScheduled_of_length_le (Nat.le_of_eq whole)
  obtain ⟨more, extended, moreLength, moreScheduled⟩ := opening.extendSchedule 48
  rw [schedule, extended]
  constructor
  · rw [List.length_append, whole, moreLength]
  · rw [← whole, List.take_left]
  · exact moreScheduled

/-- A block has one schedule. -/
theorem isSchedule_iff {block words : List UInt32} :
    IsSchedule block words ↔ block.length = 16 ∧ words = schedule block := by
  constructor
  · intro isSchedule
    have whole : block.length = 16 := by
      rw [← isSchedule.opens, List.length_take, isSchedule.length_eq]
      rfl
    have computed := isSchedule_schedule whole
    refine ⟨whole, isSchedule.scheduled.unique computed.scheduled ?_ ?_⟩
    · rw [isSchedule.length_eq, computed.length_eq]
    · rw [isSchedule.opens, computed.opens]
  · rintro ⟨whole, rfl⟩
    exact isSchedule_schedule whole

/-! ## Blocks -/

/-- A block takes a state to the next: the rounds take the state along, each with its constant
and its word, and the words that they end with are added to those that they began with. -/
def Compresses (state : HashState) (block : List UInt32) (next : HashState) : Prop :=
  ∃ constants words last, AreRoundConstants constants ∧ IsSchedule block words ∧
    Rounds constants words state last ∧
    next.words = List.zipWith (fun before after => before + after) state.words last.words

theorem words_eq_zipWith_iff {state last next : HashState} :
    next.words = List.zipWith (fun before after => before + after) state.words last.words ↔
      next = state.add last :=
  @HashState.words_inj next (state.add last)

theorem compresses_iff {state next : HashState} {block : List UInt32} :
    Compresses state block next ↔ block.length = 16 ∧ next = compressBlock state block := by
  constructor
  · rintro ⟨constants, words, last, areConstants, isSchedule, rounds, isSum⟩
    obtain rfl := areRoundConstants_iff.mp areConstants
    obtain ⟨whole, rfl⟩ := isSchedule_iff.mp isSchedule
    obtain ⟨_, rfl⟩ := rounds_iff.mp rounds
    exact ⟨whole, words_eq_zipWith_iff.mp isSum⟩
  · rintro ⟨whole, rfl⟩
    have isSchedule := isSchedule_schedule whole
    refine ⟨roundConstants, schedule block, _, areRoundConstants_iff.mpr rfl, isSchedule,
      rounds_iff.mpr ⟨?_, rfl⟩, words_eq_zipWith_iff.mpr rfl⟩
    rw [isSchedule.length_eq]
    rfl

/-- Blocks take a state along, one after another. -/
inductive Hashes : HashState → List (List UInt32) → HashState → Prop
  | done (state : HashState) : Hashes state [] state
  | block {state middle last : HashState} {block : List UInt32} {blocks : List (List UInt32)}
      (compresses : Compresses state block middle) (hashes : Hashes middle blocks last) :
      Hashes state (block :: blocks) last

theorem compressWords_nil (state : HashState) : compressWords state [] = state := by
  rw [compressWords, if_pos (by decide)]

theorem compressWords_append {state : HashState} {block : List UInt32}
    (whole : block.length = 16) (rest : List UInt32) :
    compressWords state (block ++ rest) = compressWords (compressBlock state block) rest := by
  rw [compressWords, if_neg (by rw [List.length_append]; omega), ← whole, List.take_left,
    List.drop_left]

/-- Words that make whole blocks are compressed block by block. -/
theorem hashes_iff {state last : HashState} {blocks : List (List UInt32)} :
    Hashes state blocks last ↔
      (∀ block ∈ blocks, block.length = 16) ∧ last = compressWords state blocks.flatten := by
  constructor
  · intro hashes
    induction hashes with
    | done state => exact ⟨List.forall_mem_nil _, (compressWords_nil state).symm⟩
    | block compresses hashes ih =>
        obtain ⟨whole, rfl⟩ := compresses_iff.mp compresses
        obtain ⟨restWhole, rfl⟩ := ih
        rw [List.flatten_cons, compressWords_append whole]
        exact ⟨List.forall_mem_cons.mpr ⟨whole, restWhole⟩, rfl⟩
  · rintro ⟨areWhole, rfl⟩
    induction blocks generalizing state with
    | nil =>
        rw [List.flatten_nil, compressWords_nil]
        exact Hashes.done state
    | cons block rest ih =>
        obtain ⟨whole, restWhole⟩ := List.forall_mem_cons.mp areWhole
        rw [List.flatten_cons, compressWords_append whole]
        exact Hashes.block (compresses_iff.mpr ⟨whole, rfl⟩) (ih restWhole)

/-- Words that come in sixteens are whole blocks. -/
theorem exists_blocks {words : List UInt32} {count : Nat} (whole : words.length = 16 * count) :
    ∃ blocks : List (List UInt32), blocks.flatten = words ∧
      ∀ block ∈ blocks, block.length = 16 := by
  induction count generalizing words with
  | zero =>
      obtain rfl := List.eq_nil_of_length_eq_zero whole
      exact ⟨[], rfl, List.forall_mem_nil _⟩
  | succ count ih =>
      obtain ⟨blocks, flattened, areWhole⟩ :=
        @ih (words.drop 16) (by rw [List.length_drop]; omega)
      refine ⟨words.take 16 :: blocks, ?_, List.forall_mem_cons.mpr ⟨?_, areWhole⟩⟩
      · rw [List.flatten_cons, flattened, List.take_append_drop]
      · rw [List.length_take]
        omega

/-! ## The digest -/

/-- The digest of a message: the bytes of the state to which the blocks of the padded
message take the first state. -/
def IsDigest (message digest : List UInt8) : Prop :=
  ∃ padded blocks first last, IsPadded message padded ∧ IsWritten blocks.flatten padded ∧
    IsInitial first ∧ Hashes first blocks last ∧ IsWritten last.words digest

theorem isDigest_sha256 (message : List UInt8) : IsDigest message (sha256 message) := by
  obtain ⟨count, whole⟩ := (isPadded_padMessage message).exists_length
  obtain ⟨sameBytes, wordCount⟩ :=
    @wordsOfBytes_of_length (padMessage message) (16 * count) (by omega)
  obtain ⟨blocks, flattened, areWhole⟩ := exists_blocks wordCount
  refine ⟨_, blocks, HashState.initial, _, isPadded_padMessage message, isWritten_iff.mpr ?_,
    isInitial_iff.mpr rfl, hashes_iff.mpr ⟨areWhole, rfl⟩, isWritten_iff.mpr ?_⟩
  · rw [flattened, sameBytes]
  · rw [flattened, sha256]

/-- A message has exactly one digest, the one that is computed. -/
theorem isDigest_iff {message digest : List UInt8} :
    IsDigest message digest ↔ digest = sha256 message := by
  constructor
  · rintro ⟨padded, blocks, first, last, isPadded, isWritten, isInitial, hashes, isDigest⟩
    obtain rfl := isPadded_iff.mp isPadded
    obtain rfl := isInitial_iff.mp isInitial
    obtain ⟨_, rfl⟩ := hashes_iff.mp hashes
    rw [isWritten_iff.mp isDigest, sha256, isWritten_iff.mp isWritten,
      wordsOfBytes_flatMap_bytesOfWord]
  · rintro rfl
    exact isDigest_sha256 message

end PublicSite.Digest
