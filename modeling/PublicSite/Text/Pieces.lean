/-!
# Cutting text at separators

Paths are cut at slashes, hosts at dots, query strings at ampersands, and lines
at white space.  All of them are the one function `pieces`, and `fields` keeps
only the pieces that hold something.  Joining is its inverse on pieces that
hold no separator.
-/

namespace PublicSite.Text

/-- The parts of a text between the characters that separate.  A text with `n`
separators has `n + 1` pieces, any of which may be empty. -/
def pieces (separates : Char → Bool) : List Char → List (List Char)
  | [] => [[]]
  | char :: rest =>
      if separates char then [] :: pieces separates rest
      else
        match pieces separates rest with
        | [] => [[char]]
        | first :: others => (char :: first) :: others

/-- The pieces that are not empty. -/
def fields (separates : Char → Bool) (chars : List Char) : List (List Char) :=
  (pieces separates chars).filter fun piece => !piece.isEmpty

/-- Pieces joined by a separating text. -/
def join (separator : List Char) : List (List Char) → List Char
  | [] => []
  | [piece] => piece
  | piece :: others => piece ++ separator ++ join separator others

/-- What stands before the first separating character, and what follows it when
there is one. -/
def splitOnce? (separates : Char → Bool) (chars : List Char) :
    Option (List Char × List Char) :=
  match chars.dropWhile fun char => !separates char with
  | [] => none
  | _ :: after => some (chars.takeWhile fun char => !separates char, after)

/-- The text before the first separating character, or all of it. -/
def before (separates : Char → Bool) (chars : List Char) : List Char :=
  chars.takeWhile fun char => !separates char

/-- The text from the first separating character on. -/
def startingAt (separates : Char → Bool) (chars : List Char) : List Char :=
  chars.dropWhile fun char => !separates char

theorem pieces_ne_nil (separates : Char → Bool) (chars : List Char) :
    pieces separates chars ≠ [] := by
  cases chars with
  | nil => simp [pieces]
  | cons char rest =>
      by_cases separator : separates char = true
      · simp [pieces, separator]
      · cases parts : pieces separates rest with
        | nil => simp [pieces, separator, parts]
        | cons first others => simp [pieces, separator, parts]

@[simp]
theorem before_append_startingAt (separates : Char → Bool) (chars : List Char) :
    before separates chars ++ startingAt separates chars = chars :=
  List.takeWhile_append_dropWhile

/-- A text without separators is its own only piece. -/
theorem pieces_of_no_separator {separates : Char → Bool} {chars : List Char}
    (none : ∀ char ∈ chars, separates char = false) :
    pieces separates chars = [chars] := by
  induction chars with
  | nil => rfl
  | cons char rest inductionHypothesis =>
      have restNone : ∀ other ∈ rest, separates other = false := fun other member =>
        none other (List.mem_cons_of_mem char member)
      simp [pieces, none char List.mem_cons_self, inductionHypothesis restNone]

/-- No piece holds a separator. -/
theorem separates_eq_false_of_mem_pieces {separates : Char → Bool} {chars piece : List Char}
    (member : piece ∈ pieces separates chars) :
    ∀ char ∈ piece, separates char = false := by
  induction chars generalizing piece with
  | nil =>
      simp only [pieces, List.mem_singleton] at member
      simp [member]
  | cons char rest inductionHypothesis =>
      by_cases separator : separates char = true
      · simp only [pieces, separator, if_true, List.mem_cons] at member
        rcases member with empty | later
        · simp [empty]
        · exact inductionHypothesis later
      · cases parts : pieces separates rest with
        | nil => exact absurd parts (pieces_ne_nil separates rest)
        | cons first others =>
            simp only [pieces, separator, parts] at member
            rcases List.mem_cons.mp member with head | later
            · subst head
              intro other otherMember
              rcases List.mem_cons.mp otherMember with same | inside
              · simpa [same] using separator
              · exact inductionHypothesis (by simp [parts]) other inside
            · exact inductionHypothesis (by simp [parts, later])

end PublicSite.Text
