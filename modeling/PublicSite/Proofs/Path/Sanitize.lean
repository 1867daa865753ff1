import PublicSite.Proofs.Path.Shape

/-!
# Reducing texts to pathnames

A text is reduced in one of three ways.  A bare number sign and a malformed web
address stay as they are; every other text becomes a pathname.  What begins with
a slash is never read as an address, so it is only trimmed and framed.
-/

namespace PublicSite.Path

open PublicSite.Text

/-! ## Web addresses -/

/-- A text that claims to be a web address and cannot be read as one. -/
def isMalformedAddress (path : List Char) : Bool :=
  Link.isHttp path && !(Url.parseChars (trim path)).isOk

@[simp]
theorem isHttp_trim (href : List Char) : Link.isHttp (trim href) = Link.isHttp href := by
  simp [Link.isHttp]

@[simp]
theorem isExternal_trim (href : List Char) :
    Link.isExternal (trim href) = Link.isExternal href := by
  simp [Link.isExternal]

@[simp]
theorem isMalformedAddress_trim (path : List Char) :
    isMalformedAddress (trim path) = isMalformedAddress path := by
  simp [isMalformedAddress]

/-- A word is opened with no other first character than its own. -/
theorem opensWith_eq_false {word : String} {first initial : Char} {others : List Char}
    (letters : word.toList = initial :: others) (different : first.toLower ≠ initial)
    (rest : List Char) : opensWith word (first :: rest) = false := by
  simp [opensWith, asciiLower, letters, different]

theorem isHttp_slash (rest : List Char) : Link.isHttp ('/' :: rest) = false := by
  have noHttp : opensWith "http://" ('/' :: trimRight rest) = false :=
    opensWith_eq_false rfl (by decide) _
  have noHttps : opensWith "https://" ('/' :: trimRight rest) = false :=
    opensWith_eq_false rfl (by decide) _
  simp [Link.isHttp, trim_cons (show isBlankChar '/' = false by decide), noHttp, noHttps]

/-- A text is a segment in whatever case its letters are. -/
theorem isSegment_of_asciiLower {segment word : List Char} (lower : asciiLower segment = word)
    (isSegment : IsSegment word) : IsSegment segment := by
  have inWord : ∀ char ∈ segment, char.toLower ∈ word := fun char member =>
    lower ▸ List.mem_map_of_mem member
  refine ⟨?_, ?_, ?_⟩
  · rintro rfl
    exact isSegment.notEmpty lower.symm
  · intro char member
    rw [beq_eq_false_iff_ne]
    rintro rfl
    exact absurd (isSegment.noSlash _ (inWord _ member)) (by decide)
  · intro char member
    simp only [endsPathname, Bool.or_eq_false_iff, beq_eq_false_iff_ne]
    constructor
    · rintro rfl
      exact absurd (isSegment.plain _ (inWord _ member)) (by decide)
    · rintro rfl
      exact absurd (isSegment.plain _ (inWord _ member)) (by decide)

/-- What a web address opens with is a segment with a colon. -/
theorem exists_scheme_of_opensWith {word : String} (scheme : List Char) {chars : List Char}
    (letters : word.toList = scheme ++ ['/', '/']) (isSegment : IsSegment scheme)
    (colon : ':' ∈ scheme) (opens : opensWith word chars = true) :
    ∃ written rest, chars = written ++ '/' :: rest ∧ IsSegment written ∧ ':' ∈ written := by
  obtain ⟨head, rest, rfl, lower⟩ := opensWith_iff.mp opens
  rw [letters] at lower
  obtain ⟨written, slashes, rfl, lowerScheme, lowerSlashes⟩ := List.map_eq_append_iff.mp lower
  obtain rfl := eq_of_asciiLower_eq lowerSlashes (by decide)
  obtain ⟨char, member, lowerColon⟩ := List.mem_map.mp (lowerScheme ▸ colon)
  obtain rfl : char = ':' := eq_of_toLower_eq lowerColon (by decide)
  exact ⟨written, '/' :: rest, by simp, isSegment_of_asciiLower lowerScheme isSegment, member⟩

theorem exists_scheme_of_isHttp {path : List Char} (isHttp : Link.isHttp path = true) :
    ∃ scheme rest, trim path = scheme ++ '/' :: rest ∧ IsSegment scheme ∧ ':' ∈ scheme := by
  rcases Bool.or_eq_true_iff.mp isHttp with opens | opens
  · exact exists_scheme_of_opensWith "http:".toList rfl (by decide) (by decide) opens
  · exact exists_scheme_of_opensWith "https:".toList rfl (by decide) (by decide) opens

/-! ## The three ways -/

theorem sanitize_of_sign {path : List Char} (sign : trim path = ['#']) :
    sanitize path = ['#'] := by
  simp [sanitize, sign]

theorem sanitize_of_malformed {path : List Char} (malformed : isMalformedAddress path = true) :
    sanitize path = trim path := by
  obtain ⟨isHttp, unread⟩ := Bool.and_eq_true_iff.mp malformed
  obtain ⟨scheme, rest, address, _, colon⟩ := exists_scheme_of_isHttp isHttp
  have notEmpty : (trim path).isEmpty = false := by simp [address]
  cases parsed : Url.parseChars (trim path) with
  | ok url => simp [parsed, Except.isOk, Except.toBool] at unread
  | error fault => simp [sanitize, notEmpty, isHttp, parsed]

theorem isPathname_sanitize {path : List Char} (noSign : trim path ≠ ['#'])
    (wellFormed : isMalformedAddress path = false) : IsPathname (sanitize path) := by
  unfold sanitize
  by_cases empty : (trim path).isEmpty = true
  · simp only [empty, if_true]
    exact isPathname_frame []
  · simp only [empty, Bool.false_eq_true, if_false, beq_iff_eq, noSign, isHttp_trim]
    cases isHttp : Link.isHttp path with
    | false => exact isPathname_frame _
    | true =>
        cases parsed : Url.parseChars (trim path) with
        | ok url => exact isPathname_frame _
        | error fault =>
            simp [isMalformedAddress, isHttp, parsed, Except.isOk, Except.toBool] at wellFormed

/-- A rooted text is trimmed and framed. -/
theorem sanitize_slash (rest : List Char) :
    sanitize ('/' :: rest) = frame ('/' :: trimRight rest) := by
  have trimmed : trim ('/' :: rest) = '/' :: trimRight rest := trim_cons (by decide) rest
  simp [sanitize, trimmed, isHttp_slash]

theorem IsPathname.sanitize_eq {path : List Char} (pathname : IsPathname path) :
    sanitize path = frame (trimRight path) := by
  obtain ⟨rest, rfl⟩ := pathname.rooted
  rw [sanitize_slash, trimRight_cons (by decide)]

/-- Reducing a pathname takes at least the white space at its end. -/
theorem IsPathname.length_sanitize_le {path : List Char} (pathname : IsPathname path) :
    (sanitize path).length ≤ (trimRight path).length := by
  obtain ⟨rest, rfl⟩ := pathname.rooted
  rw [sanitize_slash, frame_slash, trimRight_cons (by decide)]
  exact Nat.succ_le_succ (length_body_le _)

/-- A pathname is its own reduction unless it ends in white space. -/
theorem IsPathname.sanitize_eq_iff {path : List Char} (pathname : IsPathname path) :
    sanitize path = path ↔ trimRight path = path := by
  constructor
  · intro same
    by_contra changed
    have shorter : (trimRight path).length < path.length := length_dropEndWhile_lt changed
    have noLonger := pathname.length_sanitize_le
    rw [same] at noLonger
    omega
  · intro trimmed
    rw [pathname.sanitize_eq, trimmed, pathname.frame_eq]

/-- The segment behind the first slash names the locale. -/
theorem IsSegment.locale?_eq {segment tail : List Char} (isSegment : IsSegment segment)
    (continues : Continues tail) (kept : tail = [] → trimRight segment = segment) :
    locale? ('/' :: (segment ++ tail)) = segmentLocale? segment := by
  rw [locale?, sanitize_slash, trimRight_append continues kept,
    isSegment.head_segments_frame continues.trimRight]
  rfl

end PublicSite.Path
