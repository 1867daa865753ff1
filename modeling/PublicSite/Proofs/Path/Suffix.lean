import PublicSite.Proofs.Path.Href

/-!
# The query and the fragment of a localized href

Only what stands before the query and the fragment of an href is put under a locale.
What comes of it holds neither of the two signs, so the first sign of the result is the
first one of the href, and the query and the fragment are found again behind it.

A fragment goes from the first number sign to the end and may hold question marks; a
query begins at the first question mark before that.  So the two are cut off one after
the other, and together they are what follows the first sign of either kind.
-/

namespace PublicSite.Path

open PublicSite.Text

/-! ## Cutting twice -/

/-- The fragment of an href with its number sign, or nothing. -/
def fragment (href : List Char) : List Char :=
  startingAt (· == '#') href

/-- The query of an href with its question mark, or nothing. -/
def query (href : List Char) : List Char :=
  startingAt (· == '?') (before (· == '#') href)

/-- Before the query stands what no sign of either kind interrupts. -/
theorem before_before_fragment (href : List Char) :
    before (· == '?') (before (· == '#') href) = before endsPathname href := by
  rw [before, before, List.takeWhile_takeWhile, before]
  congr 1
  funext char
  rw [Bool.eq_iff_iff]
  simp [endsPathname, and_comm]

/-- The query and the fragment are all that follows the first sign of either kind. -/
theorem query_append_fragment (href : List Char) :
    query href ++ fragment href = startingAt endsPathname href := by
  have whole : before endsPathname href ++ (query href ++ fragment href) =
      before endsPathname href ++ startingAt endsPathname href := by
    rw [← before_before_fragment, ← List.append_assoc, query, before_append_startingAt,
      fragment, before_append_startingAt, before_before_fragment, before_append_startingAt]
  exact List.append_cancel_left whole

section Plain

variable {front : List Char} (plain : ∀ char ∈ front, endsPathname char = false)
include plain

theorem not_sign_of_plain : ∀ char ∈ front, (char == '#') = false ∧ (char == '?') = false :=
  fun char member => Bool.or_eq_false_iff.mp (plain char member)

/-- A path in front changes neither the query nor the fragment. -/
theorem query_append (back : List Char) : query (front ++ back) = query back := by
  have signs := not_sign_of_plain plain
  rw [query, before_append_of_no_separator fun char member => (signs char member).1,
    startingAt_append_of_no_separator fun char member => (signs char member).2]
  rfl

theorem fragment_append (back : List Char) : fragment (front ++ back) = fragment back :=
  startingAt_append_of_no_separator (fun char member =>
    (not_sign_of_plain plain char member).1) back

end Plain

theorem query_startingAt (href : List Char) :
    query (startingAt endsPathname href) = query href := by
  conv_rhs => rw [← before_append_startingAt endsPathname href]
  exact (query_append separates_eq_false_of_mem_before _).symm

theorem fragment_startingAt (href : List Char) :
    fragment (startingAt endsPathname href) = fragment href := by
  conv_rhs => rw [← before_append_startingAt endsPathname href]
  exact (fragment_append separates_eq_false_of_mem_before _).symm

/-! ## Localizing -/

theorem plain_stem (href : List Char) : ∀ char ∈ stem href, endsPathname char = false := by
  unfold stem
  split
  · simp [endsPathname]
  · exact separates_eq_false_of_mem_before

/-- A localized path holds no sign that ends one. -/
theorem plain_localize {path : List Char} (noSign : trim path ≠ ['#'])
    (wellFormed : isMalformedAddress path = false) (locale : Locale) :
    ∀ char ∈ localize path locale, endsPathname char = false := by
  have plainTail : ∀ char ∈ tail (normalize path), endsPathname char = false := by
    unfold tail
    split
    · simp
    · exact (isPathname_normalize noSign wellFormed).plain
  rw [localize_eq]
  intro char member
  rcases List.mem_cons.mp member with rfl | behind
  · decide
  · exact (List.mem_append.mp behind).elim ((isSegment_code locale).plain char) (plainTail char)

theorem plain_localize_stem {href : List Char} (isLocal : Link.isExternal href = false)
    (locale : Locale) :
    ∀ char ∈ localize (stem (trim href)) locale, endsPathname char = false := by
  refine plain_localize (fun sign => ?_) (isMalformedAddress_stem isLocal) locale
  have inStem : '#' ∈ stem (trim href) := mem_of_mem_trim (sign ▸ List.mem_singleton_self '#')
  exact absurd (plain_stem _ _ inStem) (by decide)

/-- An href under a locale is its stem, put under the locale as a path, with its query and
its fragment behind.  The first question mark or number sign of the href is still the first
one, so what follows it is kept, and query and fragment are read as before. -/
theorem localizeHref_keeps_suffix {href : List Char} (notBlank : isBlank href = false)
    (noSign : trim href ≠ ['#']) (isLocal : Link.isExternal href = false) (locale : Locale) :
    let value := trim href
    let result := localizeHref href locale
    result = localize (stem value) locale ++ query value ++ fragment value ∧
      before endsPathname result = localize (stem value) locale ∧
      startingAt endsPathname result = startingAt endsPathname value ∧
      query result = query value ∧ fragment result = fragment value := by
  intro value result
  have becomes : result = localize (stem value) locale ++ startingAt endsPathname value :=
    localizeHref_eq notBlank noSign isLocal locale
  have plain := plain_localize_stem isLocal locale
  have cut : ∀ first ∈ (startingAt endsPathname value).head?, endsPathname first = true := by
    intro first isFirst
    obtain ⟨rest, starts⟩ := List.head?_eq_some_iff.mp isFirst
    exact separates_of_startingAt_eq_cons starts
  obtain ⟨front, back⟩ := cut_append plain _ cut
  rw [becomes]
  refine ⟨?_, front, back, ?_, ?_⟩
  · rw [List.append_assoc, query_append_fragment]
  · rw [query_append plain, query_startingAt]
  · rw [fragment_append plain, fragment_startingAt]

/-- Signs of both kinds in the query and in the fragment, and another locale in front. -/
theorem localizeHref_keeps_suffix_signs :
    let href := " /zh-HK/events/ ?month=3?#list?#top ".toList
    isBlank href = false ∧ trim href ≠ ['#'] ∧ Link.isExternal href = false ∧
      query (localizeHref href .en) = "?month=3?".toList ∧
      fragment (localizeHref href .en) = "#list?#top".toList ∧
      before endsPathname (localizeHref href .en) = "/en/events".toList := by
  intro href
  have notBlank : isBlank href = false := by decide
  have noSign : trim href ≠ ['#'] := by decide
  have isLocal : Link.isExternal href = false := by decide
  obtain ⟨-, front, -, sameQuery, sameFragment⟩ :=
    localizeHref_keeps_suffix notBlank noSign isLocal .en
  refine ⟨notBlank, noSign, isLocal, ?_, ?_, ?_⟩
  · rw [sameQuery]
    decide
  · rw [sameFragment]
    decide
  · rw [front]
    decide

end PublicSite.Path
