import PublicSite.Proofs.Text.Utf8
import PublicSite.Url.Percent

/-!
# Percent encoding and its reading

Only a percent sign begins an encoded byte, and no other character has its byte in
it.  So a text without one is decoded to itself, and every encoded byte to that byte,
whatever follows.  Encoding leaves no character of its set behind, and so it changes
nothing when it is done again.
-/

namespace PublicSite.Url

open PublicSite.Text

/-! ## Texts without a percent sign -/

/-- The byte of the percent sign. -/
def percentMark : UInt8 := 37

theorem percentDecodeBytes_cons {byte : UInt8} (isOther : byte ≠ percentMark)
    (rest : List UInt8) :
    percentDecodeBytes (byte :: rest) = byte :: percentDecodeBytes rest := by
  have isOther : (byte == 37) = false := beq_eq_false_iff_ne.mpr isOther
  match rest with
  | [] => rfl
  | [_] => rfl
  | high :: low :: others => simp only [percentDecodeBytes, isOther]

theorem percentDecodeBytes_append {front : List UInt8} (unmarked : percentMark ∉ front)
    (rest : List UInt8) :
    percentDecodeBytes (front ++ rest) = front ++ percentDecodeBytes rest := by
  induction front with
  | nil => rfl
  | cons byte others ih =>
      have isOther : byte ≠ percentMark := fun isMark => unmarked (isMark ▸ List.mem_cons_self)
      have othersUnmarked : percentMark ∉ others := fun inside =>
        unmarked (List.mem_cons_of_mem byte inside)
      rw [List.cons_append, percentDecodeBytes_cons isOther, ih othersUnmarked, List.cons_append]

/-- Of all characters only the percent sign has its byte. -/
theorem percentMark_not_mem_encodeChar {char : Char} (notPercent : char ≠ '%') :
    percentMark ∉ String.utf8EncodeChar char := by
  have otherCode : char.val.toNat ≠ 37 := fun same =>
    notPercent (Char.ext (UInt32.toNat_inj.mp same))
  have other : ∀ {value : Nat}, value < 256 → value ≠ 37 → percentMark ≠ UInt8.ofNat value := by
    intro value small notMark same
    exact notMark ((Utf8.toNat_ofNat_of_lt small).symm.trans (congrArg UInt8.toNat same.symm))
  unfold String.utf8EncodeChar
  simp only
  split_ifs with one two three <;>
    simp only [List.mem_cons, List.not_mem_nil, or_false, not_or]
  · exact other (by omega) otherCode
  · exact ⟨other (by omega) (by omega), other (by omega) (by omega)⟩
  · exact ⟨other (by omega) (by omega), other (by omega) (by omega),
      other (by omega) (by omega)⟩
  · exact ⟨other (by omega) (by omega), other (by omega) (by omega),
      other (by omega) (by omega), other (by omega) (by omega)⟩

theorem percentDecode_of_not_mem {chars : List Char} (unmarked : '%' ∉ chars) :
    percentDecode chars = Utf8.encode chars := by
  suffices unmarked : percentMark ∉ Utf8.encode chars by
    simpa [percentDecode, percentDecodeBytes] using percentDecodeBytes_append unmarked []
  intro marked
  obtain ⟨char, member, inside⟩ := List.mem_flatMap.mp marked
  have notPercent : char ≠ '%' := by
    rintro rfl
    exact unmarked member
  exact percentMark_not_mem_encodeChar notPercent inside

/-! ## Encoded bytes -/

theorem encode_cons (char : Char) (rest : List Char) :
    Utf8.encode (char :: rest) = String.utf8EncodeChar char ++ Utf8.encode rest :=
  List.flatMap_cons

theorem encode_append (front back : List Char) :
    Utf8.encode (front ++ back) = Utf8.encode front ++ Utf8.encode back :=
  List.flatMap_append

/-- The byte that encodes a hexadecimal digit has its value. -/
theorem encode_upperHexDigit : ∀ value < 16, ∃ byte : UInt8,
    String.utf8EncodeChar (upperHexDigit value) = [byte] ∧
      hexValue? (Char.ofNat byte.toNat) = some value := by
  intro value small
  refine ⟨UInt8.ofNat (upperHexDigit value).toNat, ?_, ?_⟩
  · revert value
    decide
  · revert value
    decide

/-- An encoded byte is decoded to itself, whatever follows it. -/
theorem percentDecodeBytes_percentByte (byte : UInt8) (rest : List UInt8) :
    percentDecodeBytes (Utf8.encode (percentByte byte) ++ rest) =
      byte :: percentDecodeBytes rest := by
  have small : byte.toNat < 256 := byte.toNat_lt
  obtain ⟨high, highBytes, highValue⟩ := encode_upperHexDigit (byte.toNat / 16) (by omega)
  obtain ⟨low, lowBytes, lowValue⟩ := encode_upperHexDigit (byte.toNat % 16) (by omega)
  have bytes : Utf8.encode (percentByte byte) = [percentMark, high, low] := by
    have mark : String.utf8EncodeChar '%' = [percentMark] := by decide
    rw [percentByte, encode_cons, encode_cons, encode_cons, mark, highBytes, lowBytes]
    rfl
  have restored : UInt8.ofNat (byte.toNat / 16 * 16 + byte.toNat % 16) = byte := by
    rw [Nat.div_add_mod']
    exact UInt8.ofNat_toNat
  have isMark : (percentMark == 37) = true := rfl
  simp only [bytes, List.cons_append, List.nil_append, percentDecodeBytes, isMark, highValue,
    lowValue, restored]

theorem percentDecodeBytes_flatMap (bytes rest : List UInt8) :
    percentDecodeBytes (Utf8.encode (bytes.flatMap percentByte) ++ rest) =
      bytes ++ percentDecodeBytes rest := by
  induction bytes with
  | nil => rfl
  | cons byte others ih =>
      rw [List.flatMap_cons, encode_append, List.append_assoc, percentDecodeBytes_percentByte,
        ih, List.cons_append]

/-- An encoded byte is a percent sign and two capital hexadecimal digits. -/
theorem mem_percentByte {byte : UInt8} {char : Char} (member : char ∈ percentByte byte) :
    char = '%' ∨ ∃ value < 16, char = upperHexDigit value := by
  have small : byte.toNat < 256 := byte.toNat_lt
  simp only [percentByte, List.mem_cons, List.not_mem_nil, or_false] at member
  rcases member with mark | high | low
  · exact Or.inl mark
  · exact Or.inr ⟨_, by omega, high⟩
  · exact Or.inr ⟨_, by omega, low⟩

theorem mem_percentChar {encoded char : Char} (member : char ∈ percentChar encoded) :
    char = '%' ∨ ∃ value < 16, char = upperHexDigit value := by
  obtain ⟨_, _, inByte⟩ := List.mem_flatMap.mp member
  exact mem_percentByte inByte

/-! ## Encoding twice -/

/-- A set of characters that holds none of those in which bytes are encoded. -/
structure SparesBytes (inSet : Char → Bool) : Prop where
  mark : inSet '%' = false
  digits : ∀ value < 16, inSet (upperHexDigit value) = false

theorem sparesBytes_inUserSet : SparesBytes inUserSet :=
  ⟨by decide, by decide⟩

theorem sparesBytes_inPathSet : SparesBytes inPathSet :=
  ⟨by decide, by decide⟩

theorem sparesBytes_inSpecialQuerySet : SparesBytes inSpecialQuerySet :=
  ⟨by decide, by decide⟩

theorem sparesBytes_inFragmentSet : SparesBytes inFragmentSet :=
  ⟨by decide, by decide⟩

variable {inSet : Char → Bool}

theorem SparesBytes.eq_false_of_mem_percentChar (spares : SparesBytes inSet) {encoded char : Char}
    (member : char ∈ percentChar encoded) : inSet char = false := by
  rcases mem_percentChar member with rfl | ⟨value, small, rfl⟩
  · exact spares.mark
  · exact spares.digits value small

/-- Encoding leaves no character of its set behind. -/
theorem SparesBytes.eq_false_of_mem_percentEncode (spares : SparesBytes inSet)
    {chars : List Char} : ∀ char ∈ percentEncode inSet chars, inSet char = false := by
  intro char member
  obtain ⟨source, _, inSource⟩ := List.mem_flatMap.mp member
  split at inSource
  · exact spares.eq_false_of_mem_percentChar inSource
  · rename_i notInSet
    obtain rfl := List.mem_singleton.mp inSource
    exact Bool.eq_false_iff.mpr notInSet

/-- A text without characters of the set is not changed. -/
theorem percentEncode_eq_self {chars : List Char} (none : ∀ char ∈ chars, inSet char = false) :
    percentEncode inSet chars = chars := by
  induction chars with
  | nil => rfl
  | cons char rest ih =>
      have first : inSet char = false := none char List.mem_cons_self
      have later := ih fun other member => none other (List.mem_cons_of_mem char member)
      change (if inSet char then percentChar char else [char]) ++ percentEncode inSet rest = _
      rw [first, later]
      rfl

theorem percentChar_ne_nil (char : Char) : percentChar char ≠ [] := by
  obtain ⟨byte, others, bytes, _⟩ := Utf8.step_encodeChar char []
  rw [percentChar, Utf8.encode, List.flatMap_singleton, bytes, List.flatMap_cons]
  simp [percentByte]

theorem percentEncode_ne_nil {chars : List Char} (notEmpty : chars ≠ []) :
    percentEncode inSet chars ≠ [] := by
  obtain ⟨char, rest, rfl⟩ := List.exists_cons_of_ne_nil notEmpty
  rw [percentEncode, List.flatMap_cons]
  refine List.append_ne_nil_of_left_ne_nil ?_ _
  split
  · exact percentChar_ne_nil char
  · exact List.cons_ne_nil char []

/-- What another set does not hold, encoding brings in only with its marks and digits. -/
theorem eq_false_of_mem_percentEncode {other : Char → Bool} (spares : SparesBytes other)
    {chars : List Char} (none : ∀ char ∈ chars, other char = false) :
    ∀ char ∈ percentEncode inSet chars, other char = false := by
  intro char member
  obtain ⟨source, isSource, inSource⟩ := List.mem_flatMap.mp member
  split at inSource
  · exact spares.eq_false_of_mem_percentChar inSource
  · obtain rfl := List.mem_singleton.mp inSource
    exact none char isSource

end PublicSite.Url
