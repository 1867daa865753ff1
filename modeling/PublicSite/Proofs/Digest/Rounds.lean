import Mathlib.Algebra.Order.Ring.Nat
import Mathlib.Data.List.Forall2
import Mathlib.Data.Nat.Bitwise
import Mathlib.Data.Nat.Prime.Basic
import PublicSite.Digest.Sha256

/-!
# The rules of a round

What FIPS 180-4 asks of a round, apart from the way in which it is computed: functions of
words that are told bit by bit, constants that are told by the primes whose roots they are
taken from, and the eight words after a round.  Each rule allows what is computed and
nothing else.
-/

namespace PublicSite.Digest

/-! ## Words bit by bit -/

/-- The bit of a word at a place, of which the lowest is zero. -/
def bit (word : UInt32) (place : Nat) : Bool :=
  word.toNat.testBit place

/-- The word that has given bits. -/
def wordOfBits (bits : Nat → Bool) : UInt32 :=
  UInt32.ofNat (Nat.ofBits fun place : Fin 32 => bits place)

theorem bit_of_le {word : UInt32} {place : Nat} (outside : 32 ≤ place) :
    bit word place = false := by
  apply Nat.testBit_lt_two_pow
  exact Nat.lt_of_lt_of_le word.toNat_lt (Nat.pow_le_pow_right Nat.zero_lt_two outside)

theorem bit_wordOfBits (bits : Nat → Bool) {place : Nat} (inside : place < 32) :
    bit (wordOfBits bits) place = bits place := by
  rw [bit, wordOfBits, UInt32.toNat_ofNat_of_lt' (Nat.ofBits_lt_two_pow _)]
  exact Nat.testBit_ofBits_lt _ place inside

/-- A word is told by its bits. -/
theorem wordOfBits_eq {bits : Nat → Bool} {word : UInt32}
    (same : ∀ place < 32, bits place = bit word place) : wordOfBits bits = word := by
  apply UInt32.toNat_inj.mp
  apply Nat.eq_of_testBit_eq
  intro place
  change bit (wordOfBits bits) place = bit word place
  by_cases inside : place < 32
  · rw [bit_wordOfBits bits inside, same place inside]
  · rw [bit_of_le (Nat.le_of_not_lt inside), bit_of_le (Nat.le_of_not_lt inside)]

@[simp]
theorem bit_and (left right : UInt32) (place : Nat) :
    bit (left &&& right) place = (bit left place && bit right place) := by
  simp [bit]

@[simp]
theorem bit_xor (left right : UInt32) (place : Nat) :
    bit (left ^^^ right) place = (bit left place ^^ bit right place) := by
  simp [bit]

theorem bit_not (word : UInt32) {place : Nat} (inside : place < 32) :
    bit (~~~word) place = !bit word place := by
  have small : word.toNat < 2 ^ 32 := word.toNat_lt
  have complement : (~~~word).toNat = 2 ^ 32 - (word.toNat + 1) := by
    rw [UInt32.toNat_not, UInt32.size]
    omega
  rw [bit, complement, Nat.testBit_two_pow_sub_succ small, bit]
  simp [inside]

theorem toNat_ofNat_mod {count : Nat} (small : count < 32) :
    (UInt32.ofNat count).toNat % 32 = count := by
  rw [UInt32.toNat_ofNat']
  omega

theorem bit_shiftRight (word : UInt32) {count : Nat} (small : count < 32) (place : Nat) :
    bit (word >>> UInt32.ofNat count) place = bit word (place + count) := by
  rw [bit, UInt32.toNat_shiftRight, toNat_ofNat_mod small, Nat.testBit_shiftRight, Nat.add_comm]
  rfl

theorem bit_shiftLeft (word : UInt32) {count : Nat} (small : count < 32) {place : Nat}
    (inside : place < 32) : bit (word <<< UInt32.ofNat count) place =
      (decide (count ≤ place) && bit word (place - count)) := by
  rw [bit, UInt32.toNat_shiftLeft, toNat_ofNat_mod small, Nat.testBit_mod_two_pow,
    Nat.testBit_shiftLeft]
  simp [inside, bit]

/-- A rotation moves the bits down and those that fall out in again at the top. -/
theorem bit_rotateRight (word : UInt32) {count : Nat} (moved : 0 < count) (small : count < 32)
    {place : Nat} (inside : place < 32) :
    bit (rotateRight word (UInt32.ofNat count)) place = bit word ((place + count) % 32) := by
  have other : (32 : UInt32) - UInt32.ofNat count = UInt32.ofNat (32 - count) := by
    apply UInt32.toNat_inj.mp
    rw [UInt32.toNat_sub, UInt32.toNat_ofNat', UInt32.toNat_ofNat']
    simp only [UInt32.reduceToNat]
    omega
  have parts : bit (rotateRight word (UInt32.ofNat count)) place =
      (bit word (place + count) ||
        (decide (32 - count ≤ place) && bit word (place - (32 - count)))) := by
    rw [← bit_shiftRight word small, ← bit_shiftLeft word (by omega) inside, ← other]
    simp [rotateRight, bit]
  rw [parts]
  by_cases low : place + count < 32
  · rw [Nat.mod_eq_of_lt low, decide_eq_false (by omega), Bool.false_and, Bool.or_false]
  · have wrapped : (place + count) % 32 = place - (32 - count) := by omega
    rw [bit_of_le (Nat.le_of_not_lt low), decide_eq_true (by omega), wrapped, Bool.true_and,
      Bool.false_or]

/-! ## The functions of words -/

/-- Each bit of one word chooses between the bits of two others. -/
def choice (chooser first second : UInt32) : UInt32 :=
  wordOfBits fun place => bif bit chooser place then bit first place else bit second place

/-- Of three bits the one that at least two of them are. -/
def majority (first second third : UInt32) : UInt32 :=
  wordOfBits fun place => decide (2 ≤ (bit first place).toNat + (bit second place).toNat +
    (bit third place).toNat)

/-- The sum without carries of a word turned by three distances. -/
def largeSigma (first second third : Nat) (word : UInt32) : UInt32 :=
  wordOfBits fun place => bit word ((place + first) % 32) ^^ bit word ((place + second) % 32) ^^
    bit word ((place + third) % 32)

/-- The sum without carries of a word turned by two distances and moved by a third. -/
def smallSigma (first second third : Nat) (word : UInt32) : UInt32 :=
  wordOfBits fun place => bit word ((place + first) % 32) ^^ bit word ((place + second) % 32) ^^
    bit word (place + third)

theorem choice_eq (chooser first second : UInt32) :
    choice chooser first second = (chooser &&& first) ^^^ (~~~chooser &&& second) := by
  apply wordOfBits_eq
  intro place inside
  rw [bit_xor, bit_and, bit_and, bit_not chooser inside]
  cases bit chooser place <;> simp

theorem majority_eq (first second third : UInt32) :
    majority first second third =
      (first &&& second) ^^^ (first &&& third) ^^^ (second &&& third) := by
  apply wordOfBits_eq
  intro place _
  simp only [bit_xor, bit_and]
  cases bit first place <;> cases bit second place <;> cases bit third place <;> rfl

variable {first second third : Nat}

/-- Distances by which the bits of a word can be turned. -/
def AreTurns (distances : List Nat) : Prop :=
  ∀ distance ∈ distances, 0 < distance ∧ distance < 32

instance (distances : List Nat) : Decidable (AreTurns distances) :=
  inferInstanceAs (Decidable (∀ distance ∈ distances, _ ∧ _))

theorem AreTurns.bit_rotateRight {distances : List Nat} (turns : AreTurns distances)
    {distance : Nat} (member : distance ∈ distances) (word : UInt32) {place : Nat}
    (inside : place < 32) :
    bit (rotateRight word (UInt32.ofNat distance)) place = bit word ((place + distance) % 32) :=
  Digest.bit_rotateRight word (turns distance member).1 (turns distance member).2 inside

theorem largeSigma_eq (turns : AreTurns [first, second, third]) (word : UInt32) :
    largeSigma first second third word =
      rotateRight word (UInt32.ofNat first) ^^^ rotateRight word (UInt32.ofNat second) ^^^
        rotateRight word (UInt32.ofNat third) := by
  apply wordOfBits_eq
  intro place inside
  rw [bit_xor, bit_xor, turns.bit_rotateRight (by simp) word inside,
    turns.bit_rotateRight (by simp) word inside, turns.bit_rotateRight (by simp) word inside]

theorem smallSigma_eq (turns : AreTurns [first, second]) (small : third < 32) (word : UInt32) :
    smallSigma first second third word =
      rotateRight word (UInt32.ofNat first) ^^^ rotateRight word (UInt32.ofNat second) ^^^
        (word >>> UInt32.ofNat third) := by
  apply wordOfBits_eq
  intro place inside
  rw [bit_xor, bit_xor, turns.bit_rotateRight (by simp) word inside,
    turns.bit_rotateRight (by simp) word inside, bit_shiftRight word small]

/-! ## The constants -/

/-- The first sixty-four primes. -/
def firstPrimes : List Nat :=
  (List.range 312).filter fun number => decide number.Prime

/-- The root of a number, moved by thirty-two bits and cut. -/
def IsMovedRoot (degree number root : Nat) : Prop :=
  root ^ degree ≤ number * 2 ^ (32 * degree) ∧ number * 2 ^ (32 * degree) < (root + 1) ^ degree

instance (degree number root : Nat) : Decidable (IsMovedRoot degree number root) :=
  inferInstanceAs (Decidable (_ ∧ _))

/-- The first bits of the fraction of the root of a number. -/
def IsRootFraction (degree number : Nat) (fraction : UInt32) : Prop :=
  ∃ whole, IsMovedRoot degree number (whole * 2 ^ 32 + fraction.toNat)

/-- The constants of the rounds: a cube root for each of the first sixty-four primes. -/
def AreRoundConstants (constants : List UInt32) : Prop :=
  List.Forall₂ (IsRootFraction 3) firstPrimes constants

/-- The first state: a square root for each of the first eight primes. -/
def IsInitial (state : HashState) : Prop :=
  List.Forall₂ (IsRootFraction 2) (firstPrimes.take 8) state.words

/-- A root has one fraction. -/
theorem rightUnique_isRootFraction {degree : Nat} :
    Relator.RightUnique (IsRootFraction degree) := by
  rintro number left right ⟨wholeLeft, lowLeft, highLeft⟩ ⟨wholeRight, lowRight, highRight⟩
  have notAbove := lt_of_pow_lt_pow_left₀ degree (Nat.zero_le _) (lowLeft.trans_lt highRight)
  have notBelow := lt_of_pow_lt_pow_left₀ degree (Nat.zero_le _) (lowRight.trans_lt highLeft)
  have smallLeft := left.toNat_lt
  have smallRight := right.toNat_lt
  apply UInt32.toNat_inj.mp
  omega

theorem prime_iff_of_lt {number : Nat} (small : number < 324) :
    number.Prime ↔ 2 ≤ number ∧ ∀ factor < 18, 2 ≤ factor → factor < number →
      ¬ factor ∣ number := by
  constructor
  · intro isPrime
    refine ⟨isPrime.two_le, fun factor _ twoLe below divides => ?_⟩
    rcases isPrime.eq_one_or_self_of_dvd factor divides with one | self
    · omega
    · omega
  · rintro ⟨two, noFactor⟩
    rw [Nat.prime_def_le_sqrt]
    refine ⟨two, fun factor twoLe below => ?_⟩
    have square : factor * factor ≤ number := Nat.le_sqrt.mp below
    have near : factor < 18 := Nat.mul_self_lt_mul_self_iff.mp (square.trans_lt small)
    have twice : 2 * factor ≤ factor * factor := Nat.mul_le_mul_right factor twoLe
    exact noFactor factor near twoLe (by omega)

theorem firstPrimes_eq : firstPrimes = (List.range 312).filter fun number =>
    decide (2 ≤ number ∧ ∀ factor < 18, 2 ≤ factor → factor < number → ¬ factor ∣ number) := by
  apply List.filter_congr
  intro number member
  rw [decide_eq_decide]
  exact prime_iff_of_lt ((List.mem_range.mp member).trans (by decide))

/-- Words that end the roots of numbers are the only ones that do. -/
theorem forall₂_isRootFraction_iff {degree : Nat} {numbers : List Nat}
    {fractions given : List UInt32} (sameLength : numbers.length = fractions.length)
    (roots : ∀ entry ∈ numbers.zip fractions, ∃ whole, whole < 8 ∧
      IsMovedRoot degree entry.1 (whole * 2 ^ 32 + entry.2.toNat)) :
    List.Forall₂ (IsRootFraction degree) numbers given ↔ given = fractions := by
  have areFractions : List.Forall₂ (IsRootFraction degree) numbers fractions := by
    refine List.forall₂_iff_zip.mpr ⟨sameLength, fun member => ?_⟩
    obtain ⟨whole, _, isRoot⟩ := roots _ member
    exact ⟨whole, isRoot⟩
  constructor
  · exact fun others => List.right_unique_forall₂' rightUnique_isRootFraction others areFractions
  · rintro rfl
    exact areFractions

theorem areRoundConstants_iff {constants : List UInt32} :
    AreRoundConstants constants ↔ constants = roundConstants := by
  rw [AreRoundConstants, firstPrimes_eq]
  exact forall₂_isRootFraction_iff (by decide +kernel) (by decide +kernel)

theorem HashState.words_inj {left right : HashState} : left.words = right.words ↔ left = right := by
  simp [words, HashState.ext_iff]

theorem isInitial_iff {state : HashState} : IsInitial state ↔ state = HashState.initial := by
  rw [IsInitial, firstPrimes_eq, ← HashState.words_inj]
  exact forall₂_isRootFraction_iff (by decide +kernel) (by decide +kernel)

/-! ## The rounds -/

/-- The first word that a round works out, from its constant and its word of the schedule. -/
def firstSum (constant word : UInt32) (state : HashState) : UInt32 :=
  state.h + largeSigma 6 11 25 state.e + choice state.e state.f state.g + constant + word

/-- The second word that a round works out. -/
def secondSum (state : HashState) : UInt32 :=
  largeSigma 2 13 22 state.a + majority state.a state.b state.c

/-- A round moves the eight words by one place, and adds what it worked out to two of them. -/
structure IsRound (constant word : UInt32) (state next : HashState) : Prop where
  a_eq : next.a = firstSum constant word state + secondSum state
  b_eq : next.b = state.a
  c_eq : next.c = state.b
  d_eq : next.d = state.c
  e_eq : next.e = state.d + firstSum constant word state
  f_eq : next.f = state.e
  g_eq : next.g = state.f
  h_eq : next.h = state.g

theorem round_eq (constant word : UInt32) (state : HashState) :
    state.round (constant, word) =
      ⟨firstSum constant word state + secondSum state, state.a, state.b, state.c,
        state.d + firstSum constant word state, state.e, state.f, state.g⟩ := by
  have first : firstSum constant word state = state.h +
      (rotateRight state.e 6 ^^^ rotateRight state.e 11 ^^^ rotateRight state.e 25) +
      ((state.e &&& state.f) ^^^ (~~~state.e &&& state.g)) + constant + word := by
    rw [firstSum, choice_eq, largeSigma_eq (by decide)]
    rfl
  have second : secondSum state =
      (rotateRight state.a 2 ^^^ rotateRight state.a 13 ^^^ rotateRight state.a 22) +
      ((state.a &&& state.b) ^^^ (state.a &&& state.c) ^^^ (state.b &&& state.c)) := by
    rw [secondSum, majority_eq, largeSigma_eq (by decide)]
    rfl
  rw [first, second]
  rfl

theorem isRound_iff {constant word : UInt32} {state next : HashState} :
    IsRound constant word state next ↔ next = state.round (constant, word) := by
  rw [round_eq]
  constructor
  · rintro ⟨a_eq, b_eq, c_eq, d_eq, e_eq, f_eq, g_eq, h_eq⟩
    exact HashState.ext a_eq b_eq c_eq d_eq e_eq f_eq g_eq h_eq
  · rintro rfl
    exact ⟨rfl, rfl, rfl, rfl, rfl, rfl, rfl, rfl⟩

/-- Rounds one after another, each with its constant and its word of the schedule. -/
inductive Rounds : List UInt32 → List UInt32 → HashState → HashState → Prop
  | done (state : HashState) : Rounds [] [] state state
  | round {constant word : UInt32} {constants words : List UInt32}
      {state middle last : HashState} (isRound : IsRound constant word state middle)
      (rounds : Rounds constants words middle last) :
      Rounds (constant :: constants) (word :: words) state last

theorem rounds_iff {constants words : List UInt32} {state last : HashState} :
    Rounds constants words state last ↔ constants.length = words.length ∧
      last = (constants.zip words).foldl HashState.round state := by
  constructor
  · intro rounds
    induction rounds with
    | done state => exact ⟨rfl, rfl⟩
    | round isRound rounds ih =>
        obtain rfl := isRound_iff.mp isRound
        exact ⟨congrArg Nat.succ ih.1, ih.2⟩
  · rintro ⟨sameLength, rfl⟩
    induction constants generalizing words state with
    | nil =>
        obtain rfl := List.eq_nil_of_length_eq_zero sameLength.symm
        exact Rounds.done state
    | cons constant constants ih =>
        obtain ⟨word, words, rfl⟩ := List.exists_cons_of_length_eq_add_one sameLength.symm
        exact Rounds.round (isRound_iff.mpr rfl) (ih (Nat.succ.inj sameLength))

end PublicSite.Digest
