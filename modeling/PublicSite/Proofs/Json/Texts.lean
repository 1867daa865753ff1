import Mathlib.Data.List.Infix
import PublicSite.Proofs.Json.Reading
import PublicSite.Proofs.Text.Digits

/-!
# The texts of a printed value

The sign that opens tags has no part in how JSON is written: it stands neither in a number
nor in a word nor between them, and no escape holds it.  So a word that begins with it
stands in a printed value exactly when it stands in one of the texts that the value holds.
-/

namespace PublicSite.Json

open PublicSite.Text PublicSite.Decimal

/-! ## Characters of a quoted text -/

theorem sign_not_mem_controlEscape : ∀ code < 0x20,
    '<' ∉ ['u', '0', '0', lowerHexDigit (code / 16), lowerHexDigit (code % 16)] := by
  decide

/-- A character stands in a quoted text as it is, or an escape stands for it, which begins
with a backslash and holds no sign. -/
theorem escapeChar_cases (char : Char) :
    (escapeChar char = [char] ∧ char ≠ '"' ∧ char ≠ '\\') ∨
      (escapeChar char ≠ [char] ∧ ∃ rest, escapeChar char = '\\' :: rest ∧ '<' ∉ rest) := by
  unfold escapeChar
  split_ifs with quote mark backspace formFeed lineFeed carriageReturn tab control
  case pos => exact Or.inr ⟨by simp, _, rfl, by decide⟩
  case pos => exact Or.inr ⟨by simp, _, rfl, by decide⟩
  case pos => exact Or.inr ⟨by simp, _, rfl, by decide⟩
  case pos => exact Or.inr ⟨by simp, _, rfl, by decide⟩
  case pos => exact Or.inr ⟨by simp, _, rfl, by decide⟩
  case pos => exact Or.inr ⟨by simp, _, rfl, by decide⟩
  case pos => exact Or.inr ⟨by simp, _, rfl, by decide⟩
  case pos => exact Or.inr ⟨by simp, _, rfl, sign_not_mem_controlEscape _ control⟩
  case neg => exact Or.inl ⟨rfl, quote, mark⟩

/-- Every character of a word stands in a quoted text as it is. -/
def IsUnescaped (word : List Char) : Prop :=
  ∀ char ∈ word, escapeChar char = [char]

/-- A word without escapes begins a quoted text exactly when it begins the text. -/
theorem IsUnescaped.prefix_iff {word : List Char} (unescaped : IsUnescaped word)
    (chars rest : List Char) :
    word <+: chars.flatMap escapeChar ++ '"' :: rest ↔ word <+: chars := by
  induction chars generalizing word with
  | nil =>
      cases word with
      | nil => simp
      | cons first others =>
          have notQuote : first ≠ '"' := by
            rintro rfl
            exact absurd (unescaped _ List.mem_cons_self) (by decide)
          simp [notQuote]
  | cons char chars ih =>
      cases word with
      | nil => simp
      | cons first others =>
          have othersUnescaped : IsUnescaped others :=
            fun other isOther => unescaped other (List.mem_cons_of_mem _ isOther)
          rcases escapeChar_cases char with ⟨plain, -, -⟩ | ⟨notPlain, escape, escaped, -⟩
          · rw [List.flatMap_cons, plain, List.singleton_append, List.cons_append,
              List.cons_prefix_cons, List.cons_prefix_cons, ih othersUnescaped]
          · have isPlain := unescaped first List.mem_cons_self
            have notMark : first ≠ '\\' := by
              rintro rfl
              exact absurd isPlain (by decide)
            have differs : first ≠ char := by
              rintro rfl
              exact notPlain isPlain
            rw [List.flatMap_cons, escaped, List.cons_append, List.cons_append,
              List.cons_prefix_cons, List.cons_prefix_cons]
            exact iff_of_false (fun begins => notMark begins.1) fun begins => differs begins.1

/-! ## Words that begin with a sign -/

variable {word : List Char}

/-- Where no sign stands no such word begins. -/
theorem sign_infix_append_iff {front : List Char} (noSign : '<' ∉ front) (back : List Char) :
    '<' :: word <:+: front ++ back ↔ '<' :: word <:+: back := by
  induction front with
  | nil => rfl
  | cons first rest ih =>
      have ⟨isOther, restNoSign⟩ := not_or.mp (List.mem_cons.not.mp noSign)
      rw [List.cons_append, List.infix_cons_iff, List.cons_prefix_cons, ih restNoSign]
      exact or_iff_right fun begins => isOther begins.1

theorem sign_infix_cons_iff {first : Char} (isOther : first ≠ '<') (back : List Char) :
    '<' :: word <:+: first :: back ↔ '<' :: word <:+: back :=
  sign_infix_append_iff (fun isFirst => isOther (List.mem_singleton.mp isFirst).symm) back

/-- Such a word stands in a quoted text exactly when it stands in the text. -/
theorem sign_infix_quote_append_iff (unescaped : IsUnescaped ('<' :: word))
    (chars rest : List Char) :
    '<' :: word <:+: quote chars ++ rest ↔ '<' :: word <:+: chars ∨ '<' :: word <:+: rest := by
  rw [quote_append, sign_infix_cons_iff (by decide)]
  induction chars with
  | nil =>
      rw [List.flatMap_nil, List.nil_append, sign_infix_cons_iff (by decide)]
      simp
  | cons char chars ih =>
      rcases escapeChar_cases char with ⟨plain, -, -⟩ | ⟨notPlain, escape, escaped, noSign⟩
      · have begins := unescaped.prefix_iff (char :: chars) rest
        rw [List.flatMap_cons, plain, List.singleton_append, List.cons_append] at begins ⊢
        rw [List.infix_cons_iff, begins, ih, List.infix_cons_iff, or_assoc]
      · have isOther : char ≠ '<' := by
          rintro rfl
          exact notPlain rfl
        have frontNoSign : '<' ∉ '\\' :: escape := by simpa using noSign
        rw [List.flatMap_cons, escaped, List.append_assoc, sign_infix_append_iff frontNoSign,
          ih, sign_infix_cons_iff isOther]

/-! ## Numbers hold no sign -/

theorem sign_not_mem_toDigits (value : Nat) : '<' ∉ Nat.toDigits 10 value :=
  not_mem_decimalDigits (by decide) value

theorem sign_not_mem_printInteger (value : Int) : '<' ∉ printInteger value := by
  unfold printInteger
  split <;> simp [sign_not_mem_toDigits]

theorem sign_not_mem_search (numerator low high denominator : Nat) (closed : Bool) (point : Int)
    (tries count : Nat) :
    '<' ∉ (search numerator low high denominator closed point tries count).digits := by
  fun_induction search numerator low high denominator closed point tries count with
  | case1 => exact sign_not_mem_toDigits numerator
  | case2 tries count none ih => exact ih
  | case3 tries count best others found digits kept =>
      intro member
      have isKept := (List.dropWhile_sublist _).subset (List.mem_reverse.mp member)
      exact sign_not_mem_toDigits best (List.mem_reverse.mp isKept)

theorem sign_not_mem_layout {digits : List Char} (noSign : '<' ∉ digits) (point : Int) :
    '<' ∉ layout digits point := by
  have front (count : Nat) : '<' ∉ digits.take count := mt List.mem_of_mem_take noSign
  have back (count : Nat) : '<' ∉ digits.drop count := mt List.mem_of_mem_drop noSign
  simp only [layout]
  split
  · split <;> simp [noSign, front, back]
  · split
    · simp [noSign]
    · have mark : '<' ≠ if point - 1 < 0 then '-' else '+' := by
        split <;> decide
      split <;> simp_all [sign_not_mem_toDigits]

theorem sign_not_mem_printFloat (value : Float) : '<' ∉ printFloat value := by
  unfold printFloat
  split
  · rename_i exact _
    have body : '<' ∉ if exact.mantissa = 0 then ['0', '.', '0']
        else layout (shortest exact).digits (shortest exact).point := by
      split
      · decide
      · exact sign_not_mem_layout (sign_not_mem_search _ _ _ _ _ _ _ _) _
    simp only [Binary64.print]
    split <;> simp [body]
  · decide

namespace Value

/-! ## The texts of a value -/

mutual

/-- All texts that stand in a value, the names of members among them. -/
def texts : Value → List String
  | .text value => [value]
  | .array items => textsOfItems items
  | .object members => textsOfMembers members
  | _ => []

/-- `texts` of each item. -/
def textsOfItems : List Value → List String
  | [] => []
  | item :: rest => item.texts ++ textsOfItems rest

/-- The name of each member and `texts` of its value. -/
def textsOfMembers : List (String × Value) → List String
  | [] => []
  | (name, value) :: rest => name :: value.texts ++ textsOfMembers rest

end

theorem textsOfItems_cons (item : Value) (rest : List Value) :
    textsOfItems (item :: rest) = item.texts ++ textsOfItems rest :=
  rfl

theorem textsOfMembers_cons (name : String) (value : Value) (rest : List (String × Value)) :
    textsOfMembers ((name, value) :: rest) = name :: (value.texts ++ textsOfMembers rest) :=
  rfl

/-- A word that begins with a sign stands in one of the texts. -/
def SignStandsIn (word : List Char) (texts : List String) : Prop :=
  ∃ text ∈ texts, '<' :: word <:+: text.toList

theorem signStandsIn_append_iff {front back : List String} :
    SignStandsIn word (front ++ back) ↔ SignStandsIn word front ∨ SignStandsIn word back := by
  simp [SignStandsIn, or_and_right, exists_or]

theorem signStandsIn_cons_iff {text : String} {rest : List String} :
    SignStandsIn word (text :: rest) ↔ '<' :: word <:+: text.toList ∨ SignStandsIn word rest := by
  simp [SignStandsIn]

theorem not_signStandsIn_nil : ¬ SignStandsIn word [] := by
  simp [SignStandsIn]

mutual

/-- Of a printed value with something behind it, such a word stands in a text or behind. -/
theorem sign_infix_print_append_iff (unescaped : IsUnescaped ('<' :: word)) (value : Value)
    (rest : List Char) :
    '<' :: word <:+: value.print ++ rest ↔
      SignStandsIn word value.texts ∨ '<' :: word <:+: rest := by
  have silent {chars : List Char} (noSign : '<' ∉ chars) : '<' :: word <:+: chars ++ rest ↔
      SignStandsIn word [] ∨ '<' :: word <:+: rest := by
    rw [sign_infix_append_iff noSign, or_iff_right not_signStandsIn_nil]
  cases value with
  | null => exact silent (by decide)
  | bool value => cases value <;> exact silent (by decide)
  | integer value => exact silent (sign_not_mem_printInteger value)
  | float value => exact silent (sign_not_mem_printFloat value)
  | text value =>
      rw [print, texts, sign_infix_quote_append_iff unescaped, signStandsIn_cons_iff,
        or_iff_left not_signStandsIn_nil]
  | array items =>
      rw [print_array_append, sign_infix_cons_iff (by decide),
        sign_infix_printItems_append_iff unescaped, sign_infix_cons_iff (by decide), texts]
  | object members =>
      rw [print_object_append, sign_infix_cons_iff (by decide),
        sign_infix_printMembers_append_iff unescaped, sign_infix_cons_iff (by decide), texts]

theorem sign_infix_printItems_append_iff (unescaped : IsUnescaped ('<' :: word))
    (items : List Value) (rest : List Char) :
    '<' :: word <:+: printItems items ++ rest ↔
      SignStandsIn word (textsOfItems items) ∨ '<' :: word <:+: rest := by
  match items with
  | [] => rw [printItems, textsOfItems, List.nil_append, or_iff_right not_signStandsIn_nil]
  | [item] =>
      rw [printItems, sign_infix_print_append_iff unescaped item, textsOfItems, textsOfItems,
        List.append_nil]
  | item :: second :: others =>
      rw [printItems_cons_cons, List.append_assoc, List.cons_append,
        sign_infix_print_append_iff unescaped item, sign_infix_cons_iff (by decide),
        sign_infix_printItems_append_iff unescaped (second :: others), textsOfItems_cons item,
        signStandsIn_append_iff, or_assoc]

theorem sign_infix_printMembers_append_iff (unescaped : IsUnescaped ('<' :: word))
    (members : List (String × Value)) (rest : List Char) :
    '<' :: word <:+: printMembers members ++ rest ↔
      SignStandsIn word (textsOfMembers members) ∨ '<' :: word <:+: rest := by
  match members with
  | [] => rw [printMembers, textsOfMembers, List.nil_append, or_iff_right not_signStandsIn_nil]
  | [(name, value)] =>
      rw [printMembers, List.append_assoc, List.cons_append,
        sign_infix_quote_append_iff unescaped, sign_infix_cons_iff (by decide),
        sign_infix_print_append_iff unescaped value, textsOfMembers, textsOfMembers,
        List.append_nil, signStandsIn_cons_iff, or_assoc]
  | (name, value) :: second :: others =>
      rw [printMembers_cons_cons, List.append_assoc, List.cons_append,
        sign_infix_quote_append_iff unescaped, sign_infix_cons_iff (by decide),
        List.append_assoc, sign_infix_print_append_iff unescaped value, List.cons_append,
        sign_infix_cons_iff (by decide),
        sign_infix_printMembers_append_iff unescaped (second :: others), textsOfMembers_cons name,
        signStandsIn_cons_iff, signStandsIn_append_iff, or_assoc, or_assoc]

end

/-- Such a word stands in a printed value exactly when it stands in a text of the value. -/
theorem sign_infix_print_iff (unescaped : IsUnescaped ('<' :: word)) (value : Value) :
    '<' :: word <:+: value.print ↔ ∃ text ∈ value.texts, '<' :: word <:+: text.toList := by
  have found := sign_infix_print_append_iff unescaped value []
  rwa [List.append_nil, or_iff_left (by simp)] at found

end Value

end PublicSite.Json
