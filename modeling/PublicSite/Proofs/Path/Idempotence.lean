import PublicSite.Proofs.Path.Normalize

/-!
# Taking the locale off twice

What is left of a path without its locale may itself begin with the code of a
locale or end in white space, and then taking the locale off again changes it.
In every other case it does not, so a path can be localized before or after its
locale is taken off, and the result is the same.
-/

namespace PublicSite.Path

open PublicSite.Text

/-- What is left without the locale names no other locale and ends in no white
space. -/
def IsSettled (path : List Char) : Prop :=
  namesLocale (normalize path) = false ∧ trimRight (normalize path) = normalize path

theorem normalize_ne_nil (path : List Char) : normalize path ≠ [] := by
  by_cases sign : trim path = ['#']
  · rw [normalize_of_sign sign]
    exact List.cons_ne_nil _ _
  · cases malformed : isMalformedAddress path with
    | true =>
        obtain ⟨scheme, rest, address, _, _⟩ :=
          exists_scheme_of_isHttp (Bool.and_eq_true_iff.mp malformed).1
        rw [normalize_of_malformed malformed, address]
        simp
    | false => exact (isPathname_normalize sign malformed).ne_nil

/-- Taking the locale off makes no pathname longer. -/
theorem length_normalize_le {path : List Char} (pathname : IsPathname (sanitize path)) :
    (normalize path).length ≤ (sanitize path).length := by
  cases named : namesLocale (sanitize path) with
  | false => rw [normalize_of_not_names named]
  | true =>
      obtain ⟨first, rest, split_eq, stripped⟩ := normalize_of_names named
      obtain ⟨behind, rooted⟩ := pathname.rooted
      rw [rooted, segments, fields_cons_separator rfl] at split_eq
      rw [stripped, rooted]
      have shorter : (join ['/'] rest).length ≤ behind.length :=
        calc
          (join ['/'] rest).length ≤ (join ['/'] (first :: rest)).length :=
            length_join_le_of_sublist (List.sublist_cons_self first rest)
          _ = (join ['/'] (fields (· == '/') behind)).length := by rw [split_eq]
          _ ≤ behind.length := length_join_fields_le '/' behind
      simpa using shorter

/-- A pathname that names a locale is not left as it is. -/
theorem normalize_ne_of_names {path : List Char} (pathname : IsPathname path)
    (clean : sanitize path = path) (named : namesLocale path = true) :
    normalize path ≠ path := by
  intro same
  rw [← clean] at named
  obtain ⟨first, rest, split_eq, stripped⟩ := normalize_of_names named
  rw [clean] at split_eq
  have restSegments : segments (normalize path) = rest := by
    rw [stripped, segments, fields_cons_separator rfl]
    refine fields_join rfl fun part member => ?_
    have isSegment := isSegment_of_mem_segments pathname.plain
      (split_eq ▸ List.mem_cons_of_mem first member)
    exact ⟨isSegment.notEmpty, isSegment.noSlash⟩
  rw [same, split_eq] at restSegments
  exact absurd (congrArg List.length restSegments) (by simp)

/-- A pathname loses the white space at its end, and then it is shorter. -/
theorem normalize_ne_of_trimRight_ne {path : List Char} (pathname : IsPathname path)
    (changed : trimRight path ≠ path) : normalize path ≠ path := by
  intro same
  have shorter : (trimRight path).length < path.length := length_dropEndWhile_lt changed
  have reduced : IsPathname (sanitize path) := by
    rw [pathname.sanitize_eq]
    exact isPathname_frame _
  have lengths := (length_normalize_le reduced).trans pathname.length_sanitize_le
  rw [same] at lengths
  omega

theorem IsPathname.normalize_eq_iff {path : List Char} (pathname : IsPathname path) :
    normalize path = path ↔ namesLocale path = false ∧ trimRight path = path := by
  constructor
  · intro same
    have trimmed : trimRight path = path := by
      by_contra changed
      exact normalize_ne_of_trimRight_ne pathname changed same
    have clean : sanitize path = path := pathname.sanitize_eq_iff.mpr trimmed
    refine ⟨?_, trimmed⟩
    rw [← Bool.not_eq_true]
    exact fun named => normalize_ne_of_names pathname clean named same
  · rintro ⟨unnamed, trimmed⟩
    have clean : sanitize path = path := pathname.sanitize_eq_iff.mpr trimmed
    rw [normalize_of_not_names (by rwa [clean]), clean]

/-- Taking the locale off a second time changes nothing exactly when the path is
settled. -/
theorem normalize_normalize_iff (path : List Char) :
    normalize (normalize path) = normalize path ↔ IsSettled path := by
  by_cases sign : trim path = ['#']
  · have unchanged : normalize path = ['#'] := normalize_of_sign sign
    rw [IsSettled, unchanged]
    exact iff_of_true (normalize_of_sign rfl) ⟨by decide, rfl⟩
  · cases malformed : isMalformedAddress path with
    | true =>
        rw [IsSettled, normalize_of_malformed malformed]
        refine iff_of_true ?_ ⟨namesLocale_of_malformed malformed, ?_⟩
        · rw [normalize_of_malformed (by rwa [isMalformedAddress_trim]), trim_trim]
        · exact dropEndWhile_dropEndWhile _ _
    | false => exact (isPathname_normalize sign malformed).normalize_eq_iff

/-! ## Localizing what was taken off -/

theorem tail_inj {first second : List Char} (firstNotEmpty : first ≠ [])
    (secondNotEmpty : second ≠ []) : tail first = tail second ↔ first = second := by
  by_cases firstRoot : first = ['/']
  · by_cases secondRoot : second = ['/']
    · rw [firstRoot, secondRoot]
      exact iff_of_true rfl rfl
    · subst first
      simp [tail, secondRoot, Ne.symm secondNotEmpty, Ne.symm secondRoot]
  · by_cases secondRoot : second = ['/']
    · subst second
      simp [tail, firstRoot, firstNotEmpty]
    · simp [tail, firstRoot, secondRoot]

/-- A path and what is left of it are at one place under a locale exactly when the
path is settled. -/
theorem localize_normalize_eq_iff (path : List Char) (locale : Locale) :
    localize (normalize path) locale = localize path locale ↔ IsSettled path := by
  rw [localize_eq, localize_eq, List.cons_inj_right, List.append_cancel_left_eq,
    tail_inj (normalize_ne_nil _) (normalize_ne_nil _), normalize_normalize_iff]

end PublicSite.Path
