import PublicSite.Path
import PublicSite.Proofs.Text.Pieces
import PublicSite.Proofs.Text.Trimming

/-!
# The shape of clean pathnames

Reducing a text gives a pathname: a slash first, neither query nor fragment, and
no slash at the end unless it is the root.  There are two exceptions, which are
kept as they are: a bare number sign, and a web address that is not well formed.
A pathname that does not end in white space is its own reduction.
-/

namespace PublicSite.Path

open PublicSite.Text

/-! ## Pathnames -/

/-- The normal form of a path. -/
structure IsPathname (path : List Char) : Prop where
  rooted : ∃ rest, path = '/' :: rest
  plain : ∀ char ∈ path, endsPathname char = false
  ends : path = ['/'] ∨ dropEndWhile (· == '/') path = path

/-- What `frame` keeps of a text before it adds the first slash. -/
def body (pathname : List Char) : List Char :=
  dropEndWhile (· == '/') (before endsPathname pathname)

theorem frame_eq_or (pathname : List Char) :
    (∃ rest, body pathname = '/' :: rest ∧ frame pathname = body pathname) ∨
      frame pathname = '/' :: body pathname := by
  unfold frame
  rw [← body]
  split
  · rename_i empty
    rw [empty]
    exact Or.inr rfl
  · rename_i rest rooted
    exact Or.inl ⟨rest, rooted, rooted.symm⟩
  · exact Or.inr rfl

/-- Framing a rooted text frames what stands behind its first slash. -/
theorem frame_slash (rest : List Char) : frame ('/' :: rest) = '/' :: body rest := by
  have front : before endsPathname ('/' :: rest) = '/' :: before endsPathname rest := rfl
  by_cases empty : body rest = []
  · have nothing : body ('/' :: rest) = [] := by
      obtain ⟨dropped, split, slashes⟩ :=
        dropEndWhile_append_suffix (· == '/') (before endsPathname rest)
      rw [← body, empty, List.nil_append] at split
      rw [body, front, split]
      refine List.rdropWhile_eq_nil_iff.mpr fun char member => ?_
      rcases List.mem_cons.mp member with rfl | inside
      · rfl
      · exact slashes char inside
    rw [frame, ← body, nothing, empty]
  · have kept : body ('/' :: rest) = '/' :: body rest := by
      rw [body, front, ← List.singleton_append]
      exact dropEndWhile_append empty ['/']
    rw [frame, ← body, kept]
    rfl

theorem length_body_le (pathname : List Char) : (body pathname).length ≤ pathname.length :=
  calc
    (body pathname).length ≤ (before endsPathname pathname).length :=
      (dropEndWhile_isPrefix _ _).length_le
    _ ≤ pathname.length := (before_isPrefix _ _).length_le

/-- A slash before a clean text that ends in none. -/
theorem isPathname_cons {rest : List Char} (plain : ∀ char ∈ rest, endsPathname char = false)
    (kept : dropEndWhile (· == '/') rest = rest) : IsPathname ('/' :: rest) where
  rooted := ⟨rest, rfl⟩
  plain := by
    intro char member
    rcases List.mem_cons.mp member with rfl | inside
    · decide
    · exact plain char inside
  ends := by
    by_cases empty : rest = []
    · exact Or.inl (by rw [empty])
    · exact Or.inr (dropEndWhile_append_of_kept kept empty ['/'])

theorem isPathname_frame (pathname : List Char) : IsPathname (frame pathname) := by
  have bodyPlain : ∀ char ∈ body pathname, endsPathname char = false := fun char member =>
    separates_eq_false_of_mem_before char ((dropEndWhile_isPrefix _ _).subset member)
  have bodyEnds : dropEndWhile (· == '/') (body pathname) = body pathname :=
    dropEndWhile_dropEndWhile _ _
  rcases frame_eq_or pathname with ⟨rest, rooted, framed⟩ | framed
  · rw [framed]
    exact ⟨⟨rest, rooted⟩, bodyPlain, Or.inr bodyEnds⟩
  · rw [framed]
    exact isPathname_cons bodyPlain bodyEnds

/-- Framing changes no pathname. -/
theorem IsPathname.frame_eq {path : List Char} (pathname : IsPathname path) :
    frame path = path := by
  obtain ⟨⟨rest, rooted⟩, plain, ends⟩ := pathname
  rcases ends with root | ends
  · rw [root]
    rfl
  · unfold frame
    rw [before_of_no_separator plain, ends, rooted]
    rfl

theorem IsPathname.ne_nil {path : List Char} (pathname : IsPathname path) : path ≠ [] := by
  obtain ⟨rest, rooted⟩ := pathname.rooted
  simp [rooted]

/-- Framing changes no segment before the query and the fragment. -/
theorem segments_frame (pathname : List Char) :
    segments (frame pathname) = segments (before endsPathname pathname) := by
  have segments_body : segments (body pathname) = segments (before endsPathname pathname) := by
    obtain ⟨dropped, split, slashes⟩ :=
      dropEndWhile_append_suffix (· == '/') (before endsPathname pathname)
    conv_rhs => rw [split]
    exact (fields_append_separators slashes).symm
  rcases frame_eq_or pathname with ⟨_, _, framed⟩ | framed
  · rw [framed, segments_body]
  · rw [framed, ← segments_body]
    exact fields_cons_separator rfl _

/-! ## The first segment -/

/-- What stands between two slashes: at least one character, and none that would
end it. -/
structure IsSegment (segment : List Char) : Prop where
  notEmpty : segment ≠ []
  noSlash : ∀ char ∈ segment, (char == '/') = false
  plain : ∀ char ∈ segment, endsPathname char = false

theorem isSegment_iff (segment : List Char) :
    IsSegment segment ↔
      segment ≠ [] ∧ (segment.all fun char => char != '/' && !endsPathname char) = true := by
  simp only [List.all_eq_true, Bool.and_eq_true, bne_iff_ne, Bool.not_eq_true']
  constructor
  · rintro ⟨notEmpty, noSlash, plain⟩
    exact ⟨notEmpty, fun char member => ⟨beq_eq_false_iff_ne.mp (noSlash char member),
      plain char member⟩⟩
  · rintro ⟨notEmpty, clean⟩
    exact ⟨notEmpty, fun char member => beq_eq_false_iff_ne.mpr (clean char member).1,
      fun char member => (clean char member).2⟩

instance (segment : List Char) : Decidable (IsSegment segment) :=
  decidable_of_iff _ (isSegment_iff segment).symm

/-- A text that may follow a segment without making it longer. -/
def Continues (tail : List Char) : Prop :=
  ∀ first ∈ tail.head?, first = '/' ∨ endsPathname first = true

theorem continues_nil : Continues [] := by
  simp [Continues]

theorem continues_slash (rest : List Char) : Continues ('/' :: rest) := by
  simp [Continues]

theorem Continues.not_blank {first : Char} {rest : List Char}
    (continues : Continues (first :: rest)) : isBlankChar first = false := by
  rcases continues first rfl with rfl | ends
  · decide
  · simp only [endsPathname, Bool.or_eq_true, beq_iff_eq] at ends
    rcases ends with rfl | rfl <;> decide

/-- A text with the first segment of another one, and trimmed only behind it. -/
theorem trimRight_append {segment tail : List Char}
    (continues : Continues tail) (kept : tail = [] → trimRight segment = segment) :
    trimRight (segment ++ tail) = segment ++ trimRight tail := by
  cases tail with
  | nil => rw [List.append_nil, kept rfl, trimRight, dropEndWhile_nil, List.append_nil]
  | cons first rest =>
      rw [trimRight_cons continues.not_blank]
      exact dropEndWhile_append_cons continues.not_blank segment rest

theorem Continues.trimRight {tail : List Char} (continues : Continues tail) :
    Continues (trimRight tail) := by
  cases tail with
  | nil => exact continues_nil
  | cons first rest =>
      rw [trimRight_cons continues.not_blank]
      exact continues

/-- Before a query or a fragment, what continues a segment is nothing or begins
with a slash. -/
theorem Continues.before_eq {tail : List Char} (continues : Continues tail) :
    before endsPathname tail = [] ∨ ∃ rest, before endsPathname tail = '/' :: rest := by
  cases tail with
  | nil => exact Or.inl rfl
  | cons first rest =>
      rcases continues first rfl with rfl | ends
      · exact Or.inr ⟨before endsPathname rest, by simp [before, endsPathname]⟩
      · exact Or.inl (by simp [before, ends])

/-- The segment behind the first slash is the first one. -/
theorem IsSegment.head_segments_frame {segment tail : List Char} (isSegment : IsSegment segment)
    (continues : Continues tail) :
    (segments (frame ('/' :: (segment ++ tail)))).head? = some segment := by
  have front : before endsPathname ('/' :: (segment ++ tail)) =
      '/' :: (segment ++ before endsPathname tail) := by
    rw [← before_append_of_no_separator isSegment.plain, ← List.singleton_append,
      before_append_of_no_separator (by simp [endsPathname]), List.singleton_append]
  have alone : fields (· == '/') segment = [segment] :=
    fields_of_no_separator isSegment.notEmpty isSegment.noSlash
  rw [segments_frame, front, segments, fields_cons_separator rfl]
  rcases continues.before_eq with empty | ⟨rest, slash⟩
  · rw [empty, List.append_nil, alone]
    rfl
  · rw [slash, fields_append_separator rfl, alone]
    rfl

end PublicSite.Path
