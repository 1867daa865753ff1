import PublicSite.Proofs.Path.Normalize

/-!
# Localized paths and the locale they resolve to

A path that was put under a locale resolves to that locale, whatever the default
is.  The one exception is a malformed web address: it is glued to the code of the
locale without a slash, and the two together name no locale.
-/

namespace PublicSite.Path

open PublicSite.Text

/-! ## The segment of a locale -/

theorem isSegment_code (locale : Locale) : IsSegment locale.code.toList := by
  cases locale <;> decide

theorem trimRight_code (locale : Locale) :
    trimRight locale.code.toList = locale.code.toList := by
  cases locale <;> rfl

@[simp]
theorem segmentLocale?_code (locale : Locale) :
    segmentLocale? locale.code.toList = some locale := by
  simp [segmentLocale?]

/-- The root of a locale names it, with whatever may follow a segment behind. -/
theorem locale?_code_append (locale : Locale) {rest : List Char} (continues : Continues rest) :
    locale? ('/' :: (locale.code.toList ++ rest)) = some locale := by
  rw [(isSegment_code locale).locale?_eq continues fun _ => trimRight_code locale,
    segmentLocale?_code]

/-! ## The locale of a rooted path -/

theorem segmentLocale?_eq_some_iff {segment : List Char} {locale : Locale} :
    segmentLocale? segment = some locale ↔ segment = locale.code.toList := by
  rw [segmentLocale?, Locale.ofCode?_eq_some_iff, ← String.toList_inj, String.toList_ofList]

theorem locale?_trimRight (rest : List Char) :
    locale? ('/' :: trimRight rest) = locale? ('/' :: rest) := by
  have trimmed : trimRight (trimRight rest) = trimRight rest := dropEndWhile_dropEndWhile _ _
  rw [locale?, locale?, sanitize_slash, sanitize_slash, trimmed]

theorem slash_not_mem_code (locale : Locale) : '/' ∉ locale.code.toList := by
  cases locale <;> decide

/-- A path names a locale with its first segment, or with all of it but the white
space at its end. -/
theorem IsSegment.locale?_eq_some_iff {segment rest : List Char} (isSegment : IsSegment segment)
    (behind : rest = [] ∨ ∃ others, rest = '/' :: others) (locale : Locale) :
    locale? ('/' :: (segment ++ rest)) = some locale ↔
      segment = locale.code.toList ∨
        trimRight ('/' :: (segment ++ rest)) = localeRoot locale := by
  rw [trimRight_cons (by decide), localeRoot, List.cons_inj_right]
  -- White space is taken off the segment only when nothing stands behind it.
  rcases behind with rfl | ⟨others, rfl⟩
  · rw [List.append_nil, ← locale?_trimRight]
    have trimmed : trimRight (trimRight segment) = trimRight segment :=
      dropEndWhile_dropEndWhile _ _
    have toCode : segment = locale.code.toList → trimRight segment = locale.code.toList := by
      rintro rfl
      exact trimRight_code locale
    have named : locale? ('/' :: trimRight segment) = some locale ↔
        trimRight segment = locale.code.toList := by
      by_cases empty : trimRight segment = []
      · have root : locale? ['/'] = none := by decide
        rw [empty, root]
        exact iff_of_false (by simp) (isSegment_code locale).notEmpty.symm
      · have kept : trimRight segment <+: segment := dropEndWhile_isPrefix _ _
        have isSegment : IsSegment (trimRight segment) :=
          ⟨empty, fun char member => isSegment.noSlash char (kept.subset member),
            fun char member => isSegment.plain char (kept.subset member)⟩
        have found := isSegment.locale?_eq continues_nil fun _ => trimmed
        rw [List.append_nil] at found
        rw [found, segmentLocale?_eq_some_iff]
    rw [named]
    exact ⟨Or.inr, fun either => either.elim toCode id⟩
  · have continues : Continues ('/' :: others) := continues_slash others
    rw [isSegment.locale?_eq continues (by simp), segmentLocale?_eq_some_iff]
    refine ⟨Or.inl, fun either => either.resolve_right fun same => ?_⟩
    rw [trimRight_append continues (by simp), trimRight_cons (by decide)] at same
    exact slash_not_mem_code locale (same ▸ by simp)

/-! ## Resolving what was localized -/

theorem locale?_localize {path : List Char} (wellFormed : isMalformedAddress path = false)
    (locale : Locale) : locale? (localize path locale) = some locale := by
  rw [localize_eq]
  exact locale?_code_append locale (continues_tail wellFormed)

/-- The code of the locale and the scheme of the address are one segment. -/
theorem locale?_localize_of_malformed {path : List Char}
    (malformed : isMalformedAddress path = true) (locale : Locale) :
    locale? (localize path locale) = none := by
  have isHttp := (Bool.and_eq_true_iff.mp malformed).1
  obtain ⟨scheme, rest, address, isSegment, colon⟩ := exists_scheme_of_isHttp isHttp
  have notRoot : (trim path == ['/']) = false := by
    rw [beq_eq_false_iff_ne]
    intro root
    rw [root] at address
    have colonInRoot : ':' ∈ ['/'] := address ▸ List.mem_append_left _ colon
    exact absurd colonInRoot (by decide)
  have glued : IsSegment (locale.code.toList ++ scheme) := by
    have code := isSegment_code locale
    refine ⟨by simp [code.notEmpty], ?_, ?_⟩
    · intro char member
      exact (List.mem_append.mp member).elim (code.noSlash char) (isSegment.noSlash char)
    · intro char member
      exact (List.mem_append.mp member).elim (code.plain char) (isSegment.plain char)
  have continues : Continues ('/' :: rest) := continues_slash rest
  rw [localize_eq, normalize_of_malformed malformed, tail, notRoot, if_neg Bool.false_ne_true,
    address, ← List.append_assoc, glued.locale?_eq continues (by simp)]
  exact segmentLocale?_of_colon (List.mem_append_right _ colon)

/-- Resolving a localized path gives its locale back, except that a malformed web
address falls to the default. -/
theorem resolve_localizeText (path : String) (locale default : Locale) :
    resolve default (localizeText path locale).toList =
      if isMalformedAddress path.toList then default else locale := by
  rw [localizeText, String.toList_ofList, resolve]
  cases malformed : isMalformedAddress path.toList with
  | true => rw [locale?_localize_of_malformed malformed]; rfl
  | false => rw [locale?_localize malformed]; rfl

/-- An address without a host, under a locale that is not the default. -/
theorem resolve_localizeText_ne :
    resolve .en (localizeText "https://" .zhCn).toList ≠ .zhCn := by
  decide

end PublicSite.Path
