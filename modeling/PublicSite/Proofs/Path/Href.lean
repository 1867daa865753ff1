import PublicSite.Proofs.Path.Resolution

/-!
# Hrefs under a locale

An href from content leaves the site only when it says so, by the scheme of an
external link.  Whatever else it holds, it becomes a path under the locale of the
page: two slashes, a backslash, another scheme or the locale of another page all
end up behind the root of the locale.
-/

namespace PublicSite.Path

open PublicSite.Text

/-! ## Kinds of hrefs -/

theorem isExternal_slash (rest : List Char) : Link.isExternal ('/' :: rest) = false := by
  have noMail : opensWith "mailto:" ('/' :: trimRight rest) = false :=
    opensWith_eq_false rfl (by decide) _
  have noTel : opensWith "tel:" ('/' :: trimRight rest) = false :=
    opensWith_eq_false rfl (by decide) _
  simp [Link.isExternal, trim_cons (show isBlankChar '/' = false by decide), isHttp_slash,
    noMail, noTel]

/-- A text that opens with no scheme is not what is left of an external link. -/
theorem trim_ne_of_isExternal {href other : List Char} (external : Link.isExternal href = true)
    (isLocal : Link.isExternal other = false) : trim href ≠ other := by
  rintro rfl
  rw [isExternal_trim, external] at isLocal
  exact absurd isLocal Bool.true_eq_false.mp

/-- An external link is of one of the three kinds that leave the site. -/
theorem hrefKind_of_isExternal {href : List Char} (external : Link.isExternal href = true) :
    Link.hrefKind href ≠ .unsafeHref := by
  have notEmpty : (trim href).isEmpty = false :=
    List.isEmpty_eq_false_iff.mpr (trim_ne_of_isExternal external (by decide))
  simp only [Link.isExternal, Bool.or_eq_true, isHttp_trim] at external
  simp only [Link.hrefKind, notEmpty, Bool.false_eq_true, if_false, isHttp_trim]
  rcases external with (isHttp | isMail) | isTel
  · simp [isHttp]
  · cases Link.isHttp href <;> simp [isMail]
  · cases Link.isHttp href <;> cases opensWith "mailto:" (trim href) <;> simp [isTel]

/-- A slash and a segment are a path on this site. -/
theorem IsSegment.hrefKind_eq {segment rest : List Char} (isSegment : IsSegment segment)
    (continues : Continues rest) (kept : rest = [] → trimRight segment = segment) :
    Link.hrefKind ('/' :: (segment ++ rest)) = .internal := by
  have trimmed : trim ('/' :: (segment ++ rest)) = '/' :: (segment ++ trimRight rest) := by
    rw [trim_cons (by decide), trimRight_append continues kept]
  have inside := isExternal_slash (segment ++ trimRight rest)
  rw [← trimmed, Link.isExternal, trim_trim, isHttp_trim] at inside
  obtain ⟨noHttpOrMail, noTel⟩ := Bool.or_eq_false_iff.mp inside
  obtain ⟨noHttp, noMail⟩ := Bool.or_eq_false_iff.mp noHttpOrMail
  simp only [Link.hrefKind, isHttp_trim, noHttp, noMail, noTel]
  rw [trimmed]
  cases letters : segment with
  | nil => exact absurd letters isSegment.notEmpty
  | cons first others =>
      have notSlash : (first == '/') = false :=
        isSegment.noSlash first (by simp [letters])
      simp [Ne.symm (beq_eq_false_iff_ne.mp notSlash)]

/-! ## The four outcomes -/

theorem localizeHref_of_blank {href : List Char} (blank : isBlank href = true)
    (locale : Locale) : localizeHref href locale = ['/'] := by
  simp [localizeHref, (trim_eq_nil_iff href).mpr blank]

theorem localizeHref_of_sign {href : List Char} (sign : trim href = ['#'])
    (locale : Locale) : localizeHref href locale = ['#'] := by
  simp [localizeHref, sign]

theorem localizeHref_of_isExternal {href : List Char} (external : Link.isExternal href = true)
    (locale : Locale) : localizeHref href locale = trim href := by
  have notEmpty : (trim href).isEmpty = false :=
    List.isEmpty_eq_false_iff.mpr (trim_ne_of_isExternal external (by decide))
  simp [localizeHref, notEmpty, external]

/-- The part of a local href that is localized, the root if there is none. -/
def stem (href : List Char) : List Char :=
  if (before endsPathname href).isEmpty then ['/'] else before endsPathname href

/-- The stem of a local href is no address, because the whole href is none. -/
theorem isMalformedAddress_stem {href : List Char} (isLocal : Link.isExternal href = false) :
    isMalformedAddress (stem (trim href)) = false := by
  have noHttp : Link.isHttp href = false := by
    rw [← isHttp_trim]
    exact (Bool.or_eq_false_iff.mp (Bool.or_eq_false_iff.mp isLocal).1).1
  suffices stemNoHttp : Link.isHttp (stem (trim href)) = false by
    simp [isMalformedAddress, stemNoHttp]
  unfold stem
  split
  · exact isHttp_slash []
  · rw [← Bool.not_eq_true]
    intro isHttp
    have isPrefix : trim (before endsPathname (trim href)) <+: trim href :=
      trim_prefix_trim (before_isPrefix _ _)
    rcases Bool.or_eq_true_iff.mp isHttp with opens | opens
    · simp [Link.isHttp, opensWith_of_isPrefix isPrefix opens] at noHttp
    · simp [Link.isHttp, opensWith_of_isPrefix isPrefix opens] at noHttp

theorem continues_startingAt (href : List Char) :
    Continues (startingAt endsPathname href) := by
  intro first isFirst
  have stops := List.head?_dropWhile_not (fun char => !endsPathname char) href
  rw [startingAt] at isFirst
  rw [Option.mem_def.mp isFirst] at stops
  exact Or.inr (by simpa using stops)

/-- What continues a segment still does so with more behind it. -/
theorem Continues.append {front back : List Char} (first : Continues front)
    (second : Continues back) : Continues (front ++ back) := by
  cases front with
  | nil => exact second
  | cons char rest => exact first

/-- Only the stem of a local href is put under the locale. -/
theorem localizeHref_eq {href : List Char} (notBlank : isBlank href = false)
    (noSign : trim href ≠ ['#']) (isLocal : Link.isExternal href = false) (locale : Locale) :
    localizeHref href locale =
      localize (stem (trim href)) locale ++ startingAt endsPathname (trim href) := by
  have notEmpty : (trim href).isEmpty = false := by
    rw [List.isEmpty_eq_false_iff, ne_eq, trim_eq_nil_iff, notBlank]
    exact Bool.false_ne_true
  simp [localizeHref, notEmpty, noSign, isLocal, stem]

/-- A local href ends up behind the root of the locale. -/
theorem localizeHref_of_local {href : List Char} (notBlank : isBlank href = false)
    (noSign : trim href ≠ ['#']) (isLocal : Link.isExternal href = false) (locale : Locale) :
    ∃ rest, localizeHref href locale = '/' :: (locale.code.toList ++ rest) ∧
      Continues rest := by
  have continuesStem := continues_tail (isMalformedAddress_stem isLocal)
  refine ⟨tail (normalize (stem (trim href))) ++ startingAt endsPathname (trim href), ?_,
    continuesStem.append (continues_startingAt _)⟩
  rw [localizeHref_eq notBlank noSign isLocal, localize_eq, List.cons_append, List.append_assoc]

/-- What may become of an href: the root, the bare number sign, the link itself,
or a path under the locale. -/
inductive Outcome where
  | root
  | sign
  | external
  | underLocale
  deriving DecidableEq, Repr

/-- An href and its result under a locale are as an outcome says. -/
def Outcome.Describes (href : List Char) (locale : Locale) (result : List Char) :
    Outcome → Prop
  | root => isBlank href = true ∧ result = ['/']
  | sign => trim href = ['#'] ∧ result = ['#']
  | external => Link.isExternal href = true ∧ result = trim href
  | underLocale =>
      (∃ rest, result = '/' :: (locale.code.toList ++ rest) ∧ Continues rest) ∧
        Link.hrefKind result = .internal ∧ ∀ default, resolve default result = locale

/-- The outcome that a result can only have come from. -/
def Outcome.ofResult (result : List Char) : Outcome :=
  if result = ['/'] then root
  else if result = ['#'] then sign
  else if Link.isExternal result then external
  else underLocale

theorem Outcome.Describes.eq_ofResult {href result : List Char} {locale : Locale}
    {outcome : Outcome} (describes : outcome.Describes href locale result) :
    outcome = ofResult result := by
  cases outcome with
  | root =>
      obtain ⟨_, rfl⟩ := describes
      rfl
  | sign =>
      obtain ⟨_, rfl⟩ := describes
      rfl
  | external =>
      obtain ⟨isExternal, rfl⟩ := describes
      have notRoot : trim href ≠ ['/'] := trim_ne_of_isExternal isExternal (by decide)
      have notSign : trim href ≠ ['#'] := trim_ne_of_isExternal isExternal (by decide)
      rw [ofResult, if_neg notRoot, if_neg notSign, if_pos (by rwa [isExternal_trim])]
  | underLocale =>
      obtain ⟨⟨rest, rfl, _⟩, _, _⟩ := describes
      simp [ofResult, (isSegment_code locale).notEmpty, isExternal_slash]

/-- An href under a locale is never unsafe, and exactly one of four things has
become of it; only a link that was external itself leaves the site. -/
theorem hrefKind_localizeHref (href : String) (locale : Locale) :
    let result := (localizeHrefText href locale).toList
    Link.hrefKind result ≠ .unsafeHref ∧
      ∃! outcome : Outcome, outcome.Describes href.toList locale result := by
  intro result
  have result_eq : result = localizeHref href.toList locale := String.toList_ofList
  suffices described : Link.hrefKind result ≠ .unsafeHref ∧
      ∃ outcome : Outcome, outcome.Describes href.toList locale result by
    obtain ⟨safe, outcome, describes⟩ := described
    refine ⟨safe, outcome, describes, ?_⟩
    intro other describesOther
    rw [describesOther.eq_ofResult, describes.eq_ofResult]
  rw [result_eq]
  cases blank : isBlank href.toList with
  | true =>
      have becomes := localizeHref_of_blank blank locale
      exact ⟨by rw [becomes]; decide, .root, blank, becomes⟩
  | false =>
      by_cases sign : trim href.toList = ['#']
      · have becomes := localizeHref_of_sign sign locale
        exact ⟨by rw [becomes]; decide, .sign, sign, becomes⟩
      · cases external : Link.isExternal href.toList with
        | true =>
            have becomes := localizeHref_of_isExternal external locale
            refine ⟨?_, .external, external, becomes⟩
            rw [becomes]
            exact hrefKind_of_isExternal (by rwa [isExternal_trim])
        | false =>
            obtain ⟨rest, becomes, continues⟩ :=
              localizeHref_of_local blank sign external locale
            have kind := (isSegment_code locale).hrefKind_eq continues
              fun _ => trimRight_code locale
            rw [becomes]
            refine ⟨by rw [kind]; decide, .underLocale, ⟨rest, rfl, continues⟩, kind, ?_⟩
            intro default
            rw [resolve, locale?_code_append locale continues]
            rfl

end PublicSite.Path
