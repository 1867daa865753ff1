/-!
# Blank characters, trimming and words

White space is the Unicode property White_Space, twenty-five code points.  It
decides what "blank" means everywhere on the site: trimming, required fields,
and the words of a single-line field.  Zero-width characters and the
information separators are not white space, so they survive trimming.
-/

namespace PublicSite.Text

/-- A character is blank when it has the Unicode property White_Space. -/
def isBlankChar (char : Char) : Bool :=
  let code := char.toNat
  (9 ≤ code && code ≤ 13) || code == 0x20 || code == 0x85 || code == 0xA0
    || code == 0x1680 || (0x2000 ≤ code && code ≤ 0x200A)
    || code == 0x2028 || code == 0x2029 || code == 0x202F || code == 0x205F
    || code == 0x3000

/-- Remove the blank characters at the front. -/
def trimLeft (chars : List Char) : List Char :=
  chars.dropWhile isBlankChar

/-- Remove the characters at the end that satisfy a predicate. -/
def dropEndWhile (drops : Char → Bool) (chars : List Char) : List Char :=
  (chars.reverse.dropWhile drops).reverse

/-- Remove the blank characters at the end. -/
def trimRight (chars : List Char) : List Char :=
  dropEndWhile isBlankChar chars

/-- Remove the blank characters at both ends. -/
def trim (chars : List Char) : List Char :=
  trimRight (trimLeft chars)

/-- A text is blank when it has no character other than white space. -/
def isBlank (chars : List Char) : Bool :=
  chars.all isBlankChar

@[simp]
theorem dropEndWhile_nil (drops : Char → Bool) : dropEndWhile drops [] = [] :=
  rfl

@[simp]
theorem dropEndWhile_append_singleton (drops : Char → Bool) (chars : List Char)
    (last : Char) :
    dropEndWhile drops (chars ++ [last]) =
      if drops last then dropEndWhile drops chars else chars ++ [last] := by
  by_cases dropped : drops last = true
  · simp [dropEndWhile, dropped]
  · simp [dropEndWhile, dropped]

/-- What is kept at the front is a part of the text, in place. -/
theorem dropEndWhile_append_suffix (drops : Char → Bool) (chars : List Char) :
    ∃ dropped, chars = dropEndWhile drops chars ++ dropped ∧
      ∀ char ∈ dropped, drops char = true := by
  refine ⟨(chars.reverse.takeWhile drops).reverse, ?_, ?_⟩
  · unfold dropEndWhile
    rw [← List.reverse_append, List.takeWhile_append_dropWhile, List.reverse_reverse]
  · intro char member
    exact List.all_eq_true.mp List.all_takeWhile char (List.mem_reverse.mp member)

/-- A trimmed text, as a string. -/
def trimmed (text : String) : String :=
  String.ofList (trim text.toList)

/-- The trimmed text, unless nothing is left of it. -/
def nonBlank? (text : String) : Option String :=
  if isBlank text.toList then none else some (trimmed text)

end PublicSite.Text
