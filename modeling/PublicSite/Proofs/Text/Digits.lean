import PublicSite.Text.Ascii

/-!
# Numbers and their digits

A number is written in the digits of its base, without a zero in front, and the digits
are worth that number again.
-/

namespace PublicSite.Text

variable {base : Nat}

theorem exists_digit_of_mem_toDigits (big : 1 < base) {value : Nat} {char : Char}
    (member : char ∈ Nat.toDigits base value) : ∃ digit < base, char = Nat.digitChar digit := by
  induction value using Nat.strongRecOn with
  | ind value ih =>
      rw [Nat.toDigits_eq_if big] at member
      split at member
      · rename_i single
        exact ⟨value, single, List.mem_singleton.mp member⟩
      · rcases List.mem_append.mp member with leading | last
        · exact ih (value / base) (Nat.div_lt_self (by omega) big) leading
        · exact ⟨value % base, Nat.mod_lt value (by omega), List.mem_singleton.mp last⟩

/-- Digits that are added up one by one give the number that they were written for. -/
theorem foldlM_toDigits (big : 1 < base) {step : Nat → Char → Option Nat}
    (adds : ∀ value, ∀ digit < base,
      step value (Nat.digitChar digit) = some (value * base + digit)) (value : Nat) :
    (Nat.toDigits base value).foldlM step 0 = some value := by
  induction value using Nat.strongRecOn with
  | ind value ih =>
      rw [Nat.toDigits_eq_if big]
      split
      · rename_i single
        simp [adds 0 value single]
      · have smaller : value / base < value := Nat.div_lt_self (by omega) big
        have last : value % base < base := Nat.mod_lt value (by omega)
        rw [List.foldlM_append, ih _ smaller]
        simp [adds (value / base) (value % base) last, Nat.div_add_mod']

theorem digitChar_ne_zero : ∀ digit < 16, 0 < digit → Nat.digitChar digit ≠ '0' := by
  decide

/-- Only zero itself is written with a zero in front. -/
theorem toDigits_head?_ne_zero (big : 1 < base) (small : base ≤ 16) {value : Nat}
    (positive : 0 < value) : (Nat.toDigits base value).head? ≠ some '0' := by
  induction value using Nat.strongRecOn with
  | ind value ih =>
      rw [Nat.toDigits_eq_if big]
      split
      · rename_i single
        simpa using digitChar_ne_zero value (by omega) positive
      · rename_i large
        have front := ih (value / base) (Nat.div_lt_self positive big)
          (Nat.div_pos (by omega) (by omega))
        rwa [List.head?_append, Option.or_of_isSome (by simp [Nat.toDigits_ne_nil])]

theorem eq_nil_of_toDigits_eq_cons_zero (big : 1 < base) (small : base ≤ 16) {value : Nat}
    {rest : List Char} (written : Nat.toDigits base value = '0' :: rest) : rest = [] := by
  rcases Nat.eq_zero_or_pos value with rfl | positive
  · rw [Nat.toDigits_zero] at written
    exact (List.cons.inj written).2.symm
  · exact absurd (by rw [written]; rfl) (toDigits_head?_ne_zero big small positive)

/-! ## Decimal digits -/

@[simp]
theorem decimalValue_decimalDigits (value : Nat) : decimalValue (decimalDigits value) = value := by
  have worth := Nat.ofDigitChars_ten_toDigits (n := value)
  simp only [Nat.ofDigitChars_eq_foldl, Nat.mul_comm 10] at worth
  exact worth

theorem decimalDigits_injective : Function.Injective decimalDigits := by
  intro value other same
  have worth := congrArg decimalValue same
  rwa [decimalValue_decimalDigits, decimalValue_decimalDigits] at worth

theorem isDigit_of_mem_decimalDigits {value : Nat} {char : Char}
    (member : char ∈ decimalDigits value) : char.isDigit = true :=
  Nat.isDigit_of_mem_toDigits (by decide) (by decide) member

/-- What is no digit does not stand in a number. -/
theorem not_mem_decimalDigits {char : Char} (notDigit : char.isDigit = false) (value : Nat) :
    char ∉ decimalDigits value := by
  intro member
  rw [isDigit_of_mem_decimalDigits member] at notDigit
  exact absurd notDigit.symm Bool.false_ne_true

theorem decimalDigits_ne_nil (value : Nat) : decimalDigits value ≠ [] :=
  Nat.toDigits_ne_nil

/-! ## Hexadecimal digits -/

theorem hexValue?_digitChar : ∀ digit < 16, hexValue? (Nat.digitChar digit) = some digit := by
  decide

/-- A hexadecimal digit is worth less than sixteen. -/
theorem hexValue?_lt {char : Char} {value : Nat} (read : hexValue? char = some value) :
    value < 16 := by
  unfold hexValue? at read
  split at read
  · rename_i digit
    have isLast : char.toNat ≤ 57 :=
      UInt32.le_iff_toNat_le.mp (of_decide_eq_true (Bool.and_eq_true_iff.mp digit).2)
    have worth := Option.some.inj read
    omega
  · split at read
    · rename_i small
      have isLast : char.toNat ≤ 102 :=
        UInt32.le_iff_toNat_le.mp (of_decide_eq_true (Bool.and_eq_true_iff.mp small).2)
      have worth := Option.some.inj read
      omega
    · split at read
      · rename_i capital
        have isLast : char.toNat ≤ 70 :=
          UInt32.le_iff_toNat_le.mp (of_decide_eq_true (Bool.and_eq_true_iff.mp capital).2)
        have worth := Option.some.inj read
        omega
      · exact nomatch read

theorem hexDigits_ne_nil (value : Nat) : hexDigits value ≠ [] :=
  Nat.toDigits_ne_nil

end PublicSite.Text
