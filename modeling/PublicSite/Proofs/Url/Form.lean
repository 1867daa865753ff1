import PublicSite.Proofs.Text.Pieces
import PublicSite.Proofs.Url.Percent
import PublicSite.Url.Form

/-!
# Pairs of a query and their reading

A name or value in form encoding is read back as it was, whatever characters it holds:
what separates pairs and what separates a name from its value never stands for itself
in one.  So pairs that are put behind a query are read behind the pairs that it had,
and these are read as before.
-/

namespace PublicSite.Url

open PublicSite.Text

/-! ## Names and values -/

/-- A plus sign is read as a space before anything is decoded. -/
def plusAsSpace (char : Char) : Char :=
  if char = '+' then ' ' else char

theorem formDecode_eq (chars : List Char) :
    formDecode chars = Utf8.decodeLossy (percentDecode (chars.map plusAsSpace)) :=
  rfl

/-- A character that form encoding may leave in a text. -/
def isFormWritten (char : Char) : Bool :=
  isFormPlain char || char == '+' || char == '%'

theorem isFormPlain_upperHexDigit : ∀ value < 16, isFormPlain (upperHexDigit value) = true := by
  decide

/-- A character that stands for itself is neither a plus sign nor a percent sign. -/
theorem ne_of_isFormPlain {char mark : Char} (isPlain : isFormPlain char = true)
    (isMark : isFormPlain mark = false) : char ≠ mark := by
  rintro rfl
  rw [isPlain] at isMark
  exact absurd isMark Bool.true_eq_false.mp

theorem isFormWritten_formChar {char written : Char} (member : written ∈ formChar char) :
    isFormWritten written = true := by
  unfold formChar at member
  split at member
  · rename_i isPlain
    obtain rfl := List.mem_singleton.mp member
    simp [isFormWritten, isPlain]
  · split at member
    · obtain rfl := List.mem_singleton.mp member
      decide
    · rcases mem_percentChar member with rfl | ⟨value, small, rfl⟩
      · decide
      · simp [isFormWritten, isFormPlain_upperHexDigit value small]

theorem isFormWritten_formEncode {chars : List Char} {written : Char}
    (member : written ∈ formEncode chars) : isFormWritten written = true := by
  obtain ⟨char, _, inChar⟩ := List.mem_flatMap.mp member
  exact isFormWritten_formChar inChar

theorem not_mem_formEncode {mark : Char} (isMark : isFormWritten mark = false)
    (chars : List Char) : mark ∉ formEncode chars := by
  intro member
  rw [isFormWritten_formEncode member] at isMark
  exact absurd isMark Bool.true_eq_false.mp

/-- No plus sign stands in an encoded byte. -/
theorem map_plusAsSpace_percentChar (char : Char) :
    (percentChar char).map plusAsSpace = percentChar char := by
  refine (List.map_congr_left fun written member => ?_).trans (List.map_id _)
  have notPlus : written ≠ '+' := by
    rcases mem_percentChar member with rfl | ⟨value, small, rfl⟩
    · decide
    · exact ne_of_isFormPlain (isFormPlain_upperHexDigit value small) (by decide)
  rw [plusAsSpace, if_neg notPlus]
  rfl

/-- A character in form encoding is read as its bytes, whatever follows it. -/
theorem percentDecodeBytes_formChar (char : Char) (rest : List UInt8) :
    percentDecodeBytes (Utf8.encode ((formChar char).map plusAsSpace) ++ rest) =
      String.utf8EncodeChar char ++ percentDecodeBytes rest := by
  unfold formChar
  split
  · rename_i isPlain
    have notPlus := ne_of_isFormPlain isPlain (show isFormPlain '+' = false by decide)
    have notMark := ne_of_isFormPlain isPlain (show isFormPlain '%' = false by decide)
    rw [List.map_singleton, plusAsSpace, if_neg notPlus, Utf8.encode, List.flatMap_singleton]
    exact percentDecodeBytes_append (percentMark_not_mem_encodeChar notMark) rest
  · split
    · rename_i isSpace
      subst isSpace
      have unmarked : percentMark ∉ String.utf8EncodeChar ' ' := by decide
      exact percentDecodeBytes_append unmarked rest
    · rw [map_plusAsSpace_percentChar, percentChar, percentDecodeBytes_flatMap, Utf8.encode,
        List.flatMap_singleton]

theorem percentDecodeBytes_formEncode (chars : List Char) :
    percentDecodeBytes (Utf8.encode ((formEncode chars).map plusAsSpace)) = Utf8.encode chars := by
  induction chars with
  | nil => rfl
  | cons char rest ih =>
      have front : formEncode (char :: rest) = formChar char ++ formEncode rest := List.flatMap_cons
      rw [front, List.map_append, encode_append, percentDecodeBytes_formChar, ih, encode_cons]

/-- A name or value is read back as it was. -/
@[simp]
theorem formDecode_formEncode (chars : List Char) : formDecode (formEncode chars) = chars := by
  rw [formDecode_eq, percentDecode, percentDecodeBytes_formEncode, Utf8.decodeLossy_encode]

/-! ## Pairs -/

@[simp]
theorem readFormPair_formPair (pair : Pair) : readFormPair (formPair pair) = pair := by
  have noEquals : ∀ char ∈ formEncode pair.1, (char == '=') = false :=
    beq_eq_false_of_not_mem (not_mem_formEncode (by decide) _)
  rw [readFormPair, formPair, splitOnce?_append noEquals rfl]
  simp only [formDecode_formEncode]

/-- A written pair holds its equals sign, and no ampersand. -/
theorem isField_formPair (pair : Pair) :
    formPair pair ≠ [] ∧ ∀ char ∈ formPair pair, (char == '&') = false := by
  constructor
  · simp [formPair]
  · refine beq_eq_false_of_not_mem ?_
    simp only [formPair, List.mem_append, List.mem_cons, not_or]
    exact ⟨not_mem_formEncode (by decide) _, by decide, not_mem_formEncode (by decide) _⟩

/-- Pairs are read back as they were. -/
@[simp]
theorem formPairs_formText (pairs : List Pair) : formPairs (formText pairs) = pairs := by
  have areFields : ∀ part ∈ pairs.map formPair,
      part ≠ [] ∧ ∀ char ∈ part, (char == '&') = false := by
    intro part member
    obtain ⟨pair, _, rfl⟩ := List.mem_map.mp member
    exact isField_formPair pair
  rw [formPairs, formText, fields_join rfl areFields, List.map_map]
  exact (List.map_congr_left fun pair _ => readFormPair_formPair pair).trans (List.map_id pairs)

/-- The pairs on both sides of an ampersand are read for themselves. -/
theorem formPairs_append (front back : List Char) :
    formPairs (front ++ '&' :: back) = formPairs front ++ formPairs back := by
  rw [formPairs, fields_append_separator rfl, List.map_append]
  rfl

/-- Pairs that are put behind a query are read behind those that it had. -/
theorem pairs_appendPairs (url : Url) (added : List Pair) :
    (url.appendPairs added).pairs = url.pairs ++ added := by
  change formPairs (url.query.getD [] ++ _ ++ formText added) = formPairs (url.query.getD []) ++ added
  cases query : url.query.getD [] with
  | nil => exact formPairs_formText added
  | cons first rest =>
      cases added with
      | nil => simp [formText, join]
      | cons pair others =>
          rw [List.append_assoc]
          exact (formPairs_append _ _).trans (congrArg _ (formPairs_formText _))

theorem pairs_withPairs (url : Url) (replacement : List Pair) :
    (url.withPairs replacement).pairs = replacement :=
  formPairs_formText replacement

end PublicSite.Url
