import Mathlib.Data.List.Basic
import PublicSite.Text.Utf8

/-!
# Reading back what was encoded

The first byte of an encoded character says how many bytes follow and what the
next one may be, and the bytes that encoding writes keep to it.  So every text is
decoded to itself.
-/

namespace PublicSite.Text.Utf8

/-- What the characters of a string are encoded to are the bytes of the string. -/
theorem encode_toList (text : String) : encode text.toList = text.toUTF8.data.toList := by
  rw [String.toUTF8, ← String.utf8Encode_toList, List.utf8Encode, List.toList_data_toByteArray,
    encode]

/-! ## The bytes that follow -/

/-- A byte within its range adds six bits. -/
theorem tail_succ_cons {remaining low high bits : Nat} {byte : UInt8} {rest : List UInt8}
    (within : low ≤ byte.toNat ∧ byte.toNat ≤ high) :
    tail (remaining + 1) low high bits (byte :: rest) =
      tail remaining 0x80 0xBF (bits * 64 + (byte.toNat - 0x80)) rest := by
  rw [tail, if_pos within]

theorem toNat_ofNat_of_lt {value : Nat} (small : value < 256) :
    (UInt8.ofNat value).toNat = value :=
  UInt8.toNat_ofNat_of_lt small

theorem toNat_following (code : Nat) :
    (UInt8.ofNat (code % 64 + 128)).toNat = code % 64 + 128 :=
  toNat_ofNat_of_lt (by omega)

theorem tail_one {low high bits code : Nat} {rest : List UInt8}
    (within : low ≤ code % 64 + 128 ∧ code % 64 + 128 ≤ high)
    (whole : bits * 64 + code % 64 = code) :
    tail 1 low high bits (UInt8.ofNat (code % 64 + 128) :: rest) =
      (some (Char.ofNat code), rest) := by
  rw [tail_succ_cons (by rwa [toNat_following]), toNat_following, Nat.add_sub_cancel, whole,
    tail]

theorem tail_two {low high bits code : Nat} {rest : List UInt8}
    (within : low ≤ code / 64 % 64 + 128 ∧ code / 64 % 64 + 128 ≤ high)
    (whole : bits * 64 + code / 64 % 64 = code / 64) :
    tail 2 low high bits
        (UInt8.ofNat (code / 64 % 64 + 128) :: UInt8.ofNat (code % 64 + 128) :: rest) =
      (some (Char.ofNat code), rest) := by
  rw [tail_succ_cons (by rwa [toNat_following]), toNat_following, Nat.add_sub_cancel, whole]
  exact tail_one (by omega) (by omega)

theorem tail_three {low high bits code : Nat} {rest : List UInt8}
    (within : low ≤ code / 4096 % 64 + 128 ∧ code / 4096 % 64 + 128 ≤ high)
    (whole : bits * 64 + code / 4096 % 64 = code / 4096) :
    tail 3 low high bits
        (UInt8.ofNat (code / 4096 % 64 + 128) :: UInt8.ofNat (code / 64 % 64 + 128)
          :: UInt8.ofNat (code % 64 + 128) :: rest) =
      (some (Char.ofNat code), rest) := by
  rw [tail_succ_cons (by rwa [toNat_following]), toNat_following, Nat.add_sub_cancel, whole]
  exact tail_two (by omega) (by omega)

/-! ## The first byte -/

theorem step_eq_tail {byte : UInt8} {rest : List UInt8} {following low high bits : Nat}
    (found : lead? byte.toNat = some ⟨following, low, high, bits⟩) :
    step byte rest = tail following low high bits rest := by
  have large : ¬ byte.toNat < 0x80 := by
    intro small
    have none : lead? byte.toNat = none := by
      rw [lead?, if_neg (by omega), if_neg (by omega), if_neg (by omega), if_neg (by omega),
        if_neg (by omega), if_neg (by omega), if_neg (by omega)]
    simp [none] at found
  rw [step, if_neg large, found]

theorem step_one {code : Nat} (small : code ≤ 0x7F) (rest : List UInt8) :
    step (UInt8.ofNat code) rest = (some (Char.ofNat code), rest) := by
  have byte : (UInt8.ofNat code).toNat = code := toNat_ofNat_of_lt (by omega)
  rw [step, byte, if_pos (by omega)]

theorem step_two {code : Nat} (above : 0x7F < code) (upTo : code ≤ 0x7FF)
    (rest : List UInt8) :
    step (UInt8.ofNat (code / 64 % 32 + 192)) (UInt8.ofNat (code % 64 + 128) :: rest) =
      (some (Char.ofNat code), rest) := by
  have byte : (UInt8.ofNat (code / 64 % 32 + 192)).toNat = code / 64 % 32 + 192 :=
    toNat_ofNat_of_lt (by omega)
  have found : lead? (code / 64 % 32 + 192) = some ⟨1, 0x80, 0xBF, code / 64 % 32⟩ := by
    rw [lead?, if_pos (by omega), Nat.add_sub_cancel]
  rw [step_eq_tail (by rw [byte, found])]
  exact tail_one (by omega) (by omega)

/-- Three bytes have three kinds of first bytes: the least one must not be wasted,
and one must not lead to a surrogate. -/
theorem step_three {code : Nat} (above : 0x7FF < code) (upTo : code ≤ 0xFFFF)
    (valid : code < 0xD800 ∨ 0xDFFF < code) (rest : List UInt8) :
    step (UInt8.ofNat (code / 4096 % 16 + 224))
        (UInt8.ofNat (code / 64 % 64 + 128) :: UInt8.ofNat (code % 64 + 128) :: rest) =
      (some (Char.ofNat code), rest) := by
  have byte : (UInt8.ofNat (code / 4096 % 16 + 224)).toNat = code / 4096 % 16 + 224 :=
    toNat_ofNat_of_lt (by omega)
  have found : ∃ low high, lead? (code / 4096 % 16 + 224) =
      some ⟨2, low, high, code / 4096⟩ ∧
      low ≤ code / 64 % 64 + 128 ∧ code / 64 % 64 + 128 ≤ high := by
    by_cases least : code / 4096 = 0
    · exact ⟨0xA0, 0xBF, by simp [lead?, least], by omega, by omega⟩
    · by_cases surrogates : code / 4096 = 13
      · exact ⟨0x80, 0x9F, by simp [lead?, surrogates], by omega, by omega⟩
      · refine ⟨0x80, 0xBF, ?_, by omega, by omega⟩
        rw [lead?, if_neg (by omega), if_neg (by omega), if_neg (by omega), if_pos (by omega),
          show code / 4096 % 16 + 224 - 0xE0 = code / 4096 by omega]
  obtain ⟨low, high, found, within⟩ := found
  rw [step_eq_tail (by rw [byte, found])]
  exact tail_two within (by omega)

/-- Four bytes have three kinds as well: the least one must not be wasted, and one
must not lead beyond the last plane. -/
theorem step_four {code : Nat} (above : 0xFFFF < code) (valid : code < 0x110000)
    (rest : List UInt8) :
    step (UInt8.ofNat (code / 262144 % 8 + 240))
        (UInt8.ofNat (code / 4096 % 64 + 128) :: UInt8.ofNat (code / 64 % 64 + 128)
          :: UInt8.ofNat (code % 64 + 128) :: rest) =
      (some (Char.ofNat code), rest) := by
  have byte : (UInt8.ofNat (code / 262144 % 8 + 240)).toNat = code / 262144 % 8 + 240 :=
    toNat_ofNat_of_lt (by omega)
  have found : ∃ low high, lead? (code / 262144 % 8 + 240) =
      some ⟨3, low, high, code / 262144⟩ ∧
      low ≤ code / 4096 % 64 + 128 ∧ code / 4096 % 64 + 128 ≤ high := by
    by_cases least : code / 262144 = 0
    · exact ⟨0x90, 0xBF, by simp [lead?, least], by omega, by omega⟩
    · by_cases last : code / 262144 = 4
      · exact ⟨0x80, 0x8F, by simp [lead?, last], by omega, by omega⟩
      · refine ⟨0x80, 0xBF, ?_, by omega, by omega⟩
        rw [lead?, if_neg (by omega), if_neg (by omega), if_neg (by omega), if_neg (by omega),
          if_neg (by omega), if_neg (by omega), if_pos (by omega),
          show code / 262144 % 8 + 240 - 0xF0 = code / 262144 by omega]
  obtain ⟨low, high, found, within⟩ := found
  rw [step_eq_tail (by rw [byte, found])]
  exact tail_three within (by omega)

/-! ## Whole texts -/

/-- The bytes of a character are read as that character, and none after them. -/
theorem step_encodeChar (char : Char) (rest : List UInt8) :
    ∃ byte others, String.utf8EncodeChar char = byte :: others ∧
      step byte (others ++ rest) = (some char, rest) := by
  have valid : char.val.toNat < 0xD800 ∨ 0xDFFF < char.val.toNat ∧ char.val.toNat < 0x110000 :=
    char.valid
  have restored : Char.ofNat char.val.toNat = char := Char.ofNat_toNat char
  suffices read : ∃ byte others, String.utf8EncodeChar char = byte :: others ∧
      step byte (others ++ rest) = (some (Char.ofNat char.val.toNat), rest) by
    rwa [restored] at read
  unfold String.utf8EncodeChar
  simp only
  split
  · rename_i one
    exact ⟨_, _, rfl, step_one one rest⟩
  · split
    · rename_i two
      exact ⟨_, _, rfl, step_two (by omega) two rest⟩
    · split
      · rename_i three
        exact ⟨_, _, rfl, step_three (by omega) three (by omega) rest⟩
      · exact ⟨_, _, rfl, step_four (by omega) (by omega) rest⟩

theorem scan_encode (chars : List Char) : scan (encode chars) = chars.map some := by
  induction chars with
  | nil => simp [encode, scan]
  | cons char rest ih =>
      obtain ⟨byte, others, bytes, read⟩ := step_encodeChar char (encode rest)
      have front : encode (char :: rest) = byte :: (others ++ encode rest) := by
        rw [encode, List.flatMap_cons, bytes]
        rfl
      rw [front, scan, read, ih, List.map_cons]

@[simp]
theorem decode?_encode (chars : List Char) : decode? (encode chars) = some chars := by
  rw [decode?, scan_encode]
  induction chars with
  | nil => rfl
  | cons char rest ih => simp [ih]

@[simp]
theorem decodeLossy_encode (chars : List Char) : decodeLossy (encode chars) = chars := by
  rw [decodeLossy, scan_encode, List.map_map]
  exact List.map_id chars

end PublicSite.Text.Utf8
