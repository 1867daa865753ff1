import Mathlib.Data.List.Basic
import PublicSite.Digest.Base64Url

/-!
# Reading what was written in the alphabet of URLs

Every number below sixty-four has one character of the alphabet, and every group of
bytes one run of such characters.  So a text is read exactly when it is what some
bytes are written as, and those are the bytes that are read.
-/

namespace PublicSite.Digest.Base64Url

/-! ## The alphabet -/

theorem value?_digit {value : Nat} (small : value < 64) :
    value? (digit value) = some value := by
  revert value
  decide

theorem digit_of_isUpper {char : Char} (isUpper : char.isUpper = true) :
    char.toNat - 65 < 64 ∧ char = digit (char.toNat - 65) := by
  have range : 65 ≤ char.toNat ∧ char.toNat ≤ 90 := by
    unfold Char.isUpper at isUpper
    simpa [UInt32.le_iff_toNat_le] using isUpper
  rw [digit, if_pos (by omega), Nat.add_sub_cancel' range.1, Char.ofNat_toNat]
  exact ⟨by omega, rfl⟩

theorem digit_of_isLower {char : Char} (isLower : char.isLower = true) :
    char.toNat - 71 < 64 ∧ char = digit (char.toNat - 71) := by
  have range : 97 ≤ char.toNat ∧ char.toNat ≤ 122 := by
    unfold Char.isLower at isLower
    simpa [UInt32.le_iff_toNat_le] using isLower
  rw [digit, if_neg (by omega), if_pos (by omega), Nat.add_sub_cancel' (by omega),
    Char.ofNat_toNat]
  exact ⟨by omega, rfl⟩

theorem digit_of_isDigit {char : Char} (isDigit : char.isDigit = true) :
    char.toNat + 4 < 64 ∧ char = digit (char.toNat + 4) := by
  have range : 48 ≤ char.toNat ∧ char.toNat ≤ 57 := by
    unfold Char.isDigit at isDigit
    simpa [UInt32.le_iff_toNat_le] using isDigit
  rw [digit, if_neg (by omega), if_neg (by omega), if_pos (by omega), Nat.add_sub_cancel,
    Char.ofNat_toNat]
  exact ⟨by omega, rfl⟩

/-- Only the digit of a number is read as that number. -/
theorem value?_eq_some_iff {char : Char} {value : Nat} :
    value? char = some value ↔ value < 64 ∧ char = digit value := by
  constructor
  · intro isValue
    unfold value? at isValue
    split_ifs at isValue with upper lower decimal hyphen underscore
    · obtain rfl := Option.some.inj isValue
      exact digit_of_isUpper upper
    · obtain rfl := Option.some.inj isValue
      exact digit_of_isLower lower
    · obtain rfl := Option.some.inj isValue
      exact digit_of_isDigit decimal
    · obtain rfl := Option.some.inj isValue
      exact ⟨by decide, hyphen⟩
    · obtain rfl := Option.some.inj isValue
      exact ⟨by decide, underscore⟩
  · rintro ⟨small, rfl⟩
    exact value?_digit small

/-- The characters of the alphabet are those that have a number. -/
theorem isSome_value? (char : Char) : (value? char).isSome = isDigit char := by
  unfold value? isDigit Char.isAlphanum Char.isAlpha
  split_ifs <;> simp [*]

theorem isDigit_digit {value : Nat} (small : value < 64) : isDigit (digit value) = true := by
  rw [← isSome_value?, value?_digit small, Option.isSome_some]

/-! ## Writing -/

/-- A group of three bytes, also one that is not full, takes one character more than
it has bytes. -/
theorem length_encode (bytes : List UInt8) :
    (encode bytes).length = bytes.length + (bytes.length + 2) / 3 := by
  induction bytes using encode.induct with
  | case1 a b c rest ih =>
      rw [encode]
      simp only [List.length_cons, ih]
      omega
  | case2 a b => simp [encode]
  | case3 a => simp [encode]
  | case4 => simp [encode]

/-- Only characters of the alphabet are written. -/
theorem isDigit_of_mem_encode (bytes : List UInt8) :
    ∀ char ∈ encode bytes, isDigit char = true := by
  induction bytes using encode.induct with
  | case1 a b c rest ih =>
      have smallA := a.toNat_lt
      have smallB := b.toNat_lt
      have smallC := c.toNat_lt
      rw [encode]
      simp only [List.forall_mem_cons]
      exact ⟨isDigit_digit (by omega), isDigit_digit (by omega), isDigit_digit (by omega),
        isDigit_digit (by omega), ih⟩
  | case2 a b =>
      have smallA := a.toNat_lt
      have smallB := b.toNat_lt
      rw [encode]
      simp only [List.forall_mem_cons]
      exact ⟨isDigit_digit (by omega), isDigit_digit (by omega), isDigit_digit (by omega),
        List.forall_mem_nil _⟩
  | case3 a =>
      have smallA := a.toNat_lt
      rw [encode]
      simp only [List.forall_mem_cons]
      exact ⟨isDigit_digit (by omega), isDigit_digit (by omega), List.forall_mem_nil _⟩
  | case4 =>
      rw [encode]
      exact List.forall_mem_nil _

/-! ## Reading -/

theorem ofNat_eq_of_toNat {value : Nat} {byte : UInt8} (same : value = byte.toNat) :
    UInt8.ofNat value = byte := by
  rw [same, UInt8.ofNat_toNat]

/-- Bytes are read back from what they are written as. -/
@[simp]
theorem decode?_encode (bytes : List UInt8) : decode? (encode bytes) = some bytes := by
  induction bytes using encode.induct with
  | case1 a b c rest ih =>
      have smallA := a.toNat_lt
      have smallB := b.toNat_lt
      have smallC := c.toNat_lt
      rw [encode, decode?, value?_digit (by omega), value?_digit (by omega),
        value?_digit (by omega), value?_digit (by omega), ih]
      simp only [Option.bind_eq_bind, Option.bind_some, Option.pure_def, Option.some.injEq,
        List.cons.injEq, and_true]
      exact ⟨ofNat_eq_of_toNat (by omega), ofNat_eq_of_toNat (by omega),
        ofNat_eq_of_toNat (by omega)⟩
  | case2 a b =>
      have smallA := a.toNat_lt
      have smallB := b.toNat_lt
      rw [encode, decode?, value?_digit (by omega), value?_digit (by omega),
        value?_digit (by omega)]
      simp only [Option.bind_eq_bind, Option.bind_some, Option.pure_def]
      rw [if_pos (by omega), Option.some.injEq]
      simp only [List.cons.injEq, and_true]
      exact ⟨ofNat_eq_of_toNat (by omega), ofNat_eq_of_toNat (by omega)⟩
  | case3 a =>
      have smallA := a.toNat_lt
      rw [encode, decode?, value?_digit (by omega), value?_digit (by omega)]
      simp only [Option.bind_eq_bind, Option.bind_some, Option.pure_def]
      rw [if_pos (by omega), Option.some.injEq]
      simp only [List.cons.injEq, and_true]
      exact ofNat_eq_of_toNat (by omega)
  | case4 => rfl

/-- Whatever is read, the text is how it is written: a last character with spare bits
that are not zero is refused. -/
theorem eq_encode_of_decode? {chars : List Char} {bytes : List UInt8}
    (read : decode? chars = some bytes) : chars = encode bytes := by
  induction chars using decode?.induct generalizing bytes with
  | case1 a b c d rest ih =>
      rw [decode?] at read
      simp only [Option.bind_eq_bind, Option.bind_eq_some_iff, Option.pure_def,
        Option.some.injEq, value?_eq_some_iff] at read
      obtain ⟨p, ⟨smallP, rfl⟩, q, ⟨smallQ, rfl⟩, r, ⟨smallR, rfl⟩, s, ⟨smallS, rfl⟩, others,
        readOthers, rfl⟩ := read
      rw [ih readOthers, encode]
      simp only [UInt8.toNat_ofNat', List.cons.injEq, and_true]
      exact ⟨congrArg digit (by omega), congrArg digit (by omega), congrArg digit (by omega),
        congrArg digit (by omega)⟩
  | case2 a b c =>
      rw [decode?] at read
      simp only [Option.bind_eq_bind, Option.bind_eq_some_iff, Option.pure_def,
        value?_eq_some_iff] at read
      obtain ⟨p, ⟨smallP, rfl⟩, q, ⟨smallQ, rfl⟩, r, ⟨smallR, rfl⟩, whole⟩ := read
      obtain ⟨noSpare, bytesEq⟩ := Option.ite_none_right_eq_some.mp whole
      obtain rfl := Option.some.inj bytesEq
      rw [encode]
      simp only [UInt8.toNat_ofNat', List.cons.injEq, and_true]
      exact ⟨congrArg digit (by omega), congrArg digit (by omega), congrArg digit (by omega)⟩
  | case3 a b =>
      rw [decode?] at read
      simp only [Option.bind_eq_bind, Option.bind_eq_some_iff, Option.pure_def,
        value?_eq_some_iff] at read
      obtain ⟨p, ⟨smallP, rfl⟩, q, ⟨smallQ, rfl⟩, whole⟩ := read
      obtain ⟨noSpare, bytesEq⟩ := Option.ite_none_right_eq_some.mp whole
      obtain rfl := Option.some.inj bytesEq
      rw [encode]
      simp only [UInt8.toNat_ofNat', List.cons.injEq, and_true]
      exact ⟨congrArg digit (by omega), congrArg digit (by omega)⟩
  | case4 a => exact nomatch read
  | case5 =>
      obtain rfl := Option.some.inj read
      rfl

/-- The reader accepts exactly what is written. -/
theorem decode?_eq_some_iff {chars : List Char} {bytes : List UInt8} :
    decode? chars = some bytes ↔ chars = encode bytes := by
  constructor
  · exact eq_encode_of_decode?
  · rintro rfl
    exact decode?_encode bytes

end PublicSite.Digest.Base64Url
