import PublicSite.Proofs.Path.Sanitize

/-!
# Paths without their locale

Taking the locale off a path leaves a pathname, unless there was none to begin
with: a bare number sign and a malformed address name no locale and stay as they
are.  Putting a locale in front again is then a matter of the text behind it.
-/

namespace PublicSite.Path

open PublicSite.Text

/-! ## The segments of a pathname -/

/-- The first segment is the code of a locale. -/
def namesLocale (path : List Char) : Bool :=
  ((segments path).head?.bind segmentLocale?).isSome

theorem isSegment_of_mem_segments {path segment : List Char}
    (plain : ∀ char ∈ path, endsPathname char = false) (member : segment ∈ segments path) :
    IsSegment segment := by
  obtain ⟨notEmpty, noSlash⟩ := mem_fields member
  exact ⟨notEmpty, noSlash, fun char inside => plain char (mem_of_mem_fields member inside)⟩

/-- Joined segments end in no slash. -/
theorem dropEndWhile_join {parts : List (List Char)} (notEmpty : parts ≠ [])
    (areSegments : ∀ part ∈ parts, IsSegment part) :
    dropEndWhile (· == '/') (join ['/'] parts) = join ['/'] parts ∧ join ['/'] parts ≠ [] := by
  induction parts with
  | nil => exact absurd rfl notEmpty
  | cons first rest ih =>
      cases rest with
      | nil =>
          have isSegment := areSegments first List.mem_cons_self
          refine ⟨List.rdropWhile_eq_self_iff.mpr ?_, isSegment.notEmpty⟩
          intro holds
          simpa using isSegment.noSlash _ (List.getLast_mem holds)
      | cons second others =>
          obtain ⟨kept, holds⟩ := ih (List.cons_ne_nil second others) fun part member =>
            areSegments part (List.mem_cons_of_mem first member)
          rw [join_cons_cons]
          exact ⟨dropEndWhile_append_of_kept kept holds _, by simp⟩

theorem plain_join {parts : List (List Char)} (areSegments : ∀ part ∈ parts, IsSegment part) :
    ∀ char ∈ join ['/'] parts, endsPathname char = false := by
  induction parts with
  | nil => simp [join]
  | cons first rest ih =>
      have restPlain := ih fun part member => areSegments part (List.mem_cons_of_mem first member)
      cases rest with
      | nil => exact (areSegments first List.mem_cons_self).plain
      | cons second others =>
          rw [join_cons_cons]
          intro char member
          rcases List.mem_append.mp member with front | later
          · rcases List.mem_append.mp front with inside | slash
            · exact (areSegments first List.mem_cons_self).plain char inside
            · rw [List.mem_singleton.mp slash]
              decide
          · exact restPlain char later

theorem isPathname_join {parts : List (List Char)}
    (areSegments : ∀ part ∈ parts, IsSegment part) : IsPathname ('/' :: join ['/'] parts) := by
  refine isPathname_cons (plain_join areSegments) ?_
  by_cases empty : parts = []
  · rw [empty]
    rfl
  · exact (dropEndWhile_join empty areSegments).1

/-! ## Taking the locale off -/

theorem normalize_of_not_names {path : List Char} (unnamed : namesLocale (sanitize path) = false) :
    normalize path = sanitize path := by
  cases split_eq : segments (sanitize path) with
  | nil => simp [normalize, split_eq]
  | cons first rest =>
      simp only [namesLocale, split_eq, List.head?_cons, Option.bind_some] at unnamed
      simp [normalize, split_eq, unnamed]

theorem normalize_of_names {path : List Char} (named : namesLocale (sanitize path) = true) :
    ∃ first rest, segments (sanitize path) = first :: rest ∧
      normalize path = '/' :: join ['/'] rest := by
  cases split_eq : segments (sanitize path) with
  | nil => simp [namesLocale, split_eq] at named
  | cons first rest =>
      simp only [namesLocale, split_eq, List.head?_cons, Option.bind_some] at named
      exact ⟨first, rest, rfl, by simp [normalize, split_eq, named]⟩

theorem normalize_of_sign {path : List Char} (sign : trim path = ['#']) :
    normalize path = ['#'] := by
  rw [normalize_of_not_names (by rw [sanitize_of_sign sign]; decide), sanitize_of_sign sign]

/-- No code holds a colon. -/
theorem segmentLocale?_of_colon {segment : List Char} (colon : ':' ∈ segment) :
    segmentLocale? segment = none := by
  rw [Option.eq_none_iff_forall_ne_some]
  intro locale found
  have code_eq := congrArg String.toList (Locale.ofCode?_eq_some_iff.mp found)
  rw [String.toList_ofList] at code_eq
  rw [code_eq] at colon
  cases locale <;> exact absurd colon (by decide)

theorem namesLocale_of_malformed {path : List Char} (malformed : isMalformedAddress path = true) :
    namesLocale (trim path) = false := by
  have isHttp := (Bool.and_eq_true_iff.mp malformed).1
  obtain ⟨scheme, rest, address, isSegment, colon⟩ := exists_scheme_of_isHttp isHttp
  rw [namesLocale, address, segments, fields_append_separator rfl,
    fields_of_no_separator isSegment.notEmpty isSegment.noSlash, List.singleton_append,
    List.head?_cons, Option.bind_some, segmentLocale?_of_colon colon]
  rfl

theorem normalize_of_malformed {path : List Char} (malformed : isMalformedAddress path = true) :
    normalize path = trim path := by
  have unchanged := sanitize_of_malformed malformed
  rw [normalize_of_not_names (by rw [unchanged]; exact namesLocale_of_malformed malformed),
    unchanged]

theorem isPathname_normalize {path : List Char} (noSign : trim path ≠ ['#'])
    (wellFormed : isMalformedAddress path = false) : IsPathname (normalize path) := by
  have pathname := isPathname_sanitize noSign wellFormed
  cases named : namesLocale (sanitize path) with
  | false => rwa [normalize_of_not_names named]
  | true =>
      obtain ⟨first, rest, split_eq, stripped⟩ := normalize_of_names named
      rw [stripped]
      refine isPathname_join fun part member => ?_
      exact isSegment_of_mem_segments pathname.plain
        (split_eq ▸ List.mem_cons_of_mem first member)

/-! ## Putting a locale in front -/

/-- What a path adds to the root of its locale. -/
def tail (base : List Char) : List Char :=
  if base == ['/'] then [] else base

theorem localize_eq (path : List Char) (locale : Locale) :
    localize path locale = '/' :: (locale.code.toList ++ tail (normalize path)) := by
  by_cases root : normalize path = ['/'] <;> simp [localize, localeRoot, tail, root]

theorem IsPathname.continues_tail {base : List Char} (pathname : IsPathname base) :
    Continues (tail base) := by
  obtain ⟨rest, rfl⟩ := pathname.rooted
  unfold tail
  split
  · exact continues_nil
  · exact continues_slash rest

theorem continues_tail {path : List Char} (wellFormed : isMalformedAddress path = false) :
    Continues (tail (normalize path)) := by
  by_cases sign : trim path = ['#']
  · rw [normalize_of_sign sign]
    simp [tail, Continues, endsPathname]
  · exact (isPathname_normalize sign wellFormed).continues_tail

end PublicSite.Path
