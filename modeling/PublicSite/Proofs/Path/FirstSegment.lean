import PublicSite.Proofs.Path.Resolution

/-!
# The first segment decides

Trimming, cutting and framing change nothing of the first segment that holds
something, whatever text stands behind it.  So the locale of a path is that of its
first segment when this is the code of one, and the default otherwise.
-/

namespace PublicSite.Path

open PublicSite.Text

/-- A segment between slashes, of which more than one may stand in front. -/
def between (slashes : Nat) (segment rest : List Char) : List Char :=
  List.replicate slashes '/' ++ '/' :: (segment ++ '/' :: rest)

/-- The segments of a rooted path stand behind its first slash. -/
theorem segments_sanitize_slash (rest : List Char) :
    segments (sanitize ('/' :: rest)) = segments (before endsPathname (trimRight rest)) := by
  have front : before endsPathname ('/' :: trimRight rest) =
      '/' :: before endsPathname (trimRight rest) := rfl
  rw [sanitize_slash, segments_frame, front]
  exact fields_cons_separator rfl _

/-- One more slash in front names no other locale. -/
theorem locale?_slash_slash (rest : List Char) :
    locale? ('/' :: '/' :: rest) = locale? ('/' :: rest) := by
  have trimmed : trimRight ('/' :: rest) = '/' :: trimRight rest := trimRight_cons (by decide) rest
  have front : before endsPathname ('/' :: trimRight rest) =
      '/' :: before endsPathname (trimRight rest) := rfl
  have cut : segments ('/' :: before endsPathname (trimRight rest)) =
      segments (before endsPathname (trimRight rest)) := fields_cons_separator rfl _
  rw [locale?, locale?, segments_sanitize_slash, segments_sanitize_slash, trimmed, front, cut]

theorem locale?_between {segment : List Char} (isSegment : IsSegment segment) (slashes : Nat)
    (rest : List Char) : locale? (between slashes segment rest) = segmentLocale? segment := by
  induction slashes with
  | zero => exact isSegment.locale?_eq (continues_slash rest) (by simp)
  | succ slashes ih =>
      have rooted : ∃ others, between slashes segment rest = '/' :: others := by
        cases slashes with
        | zero => exact ⟨_, rfl⟩
        | succ fewer => exact ⟨_, rfl⟩
      obtain ⟨others, rooted⟩ := rooted
      have longer : between (slashes + 1) segment rest = '/' :: between slashes segment rest := rfl
      rw [longer, rooted, locale?_slash_slash, ← rooted, ih]

/-- A path resolves to the locale, and its direction, whose code is the first segment;
to the default, and its direction, when the first segment is no such code.  Neither the
rest of the path nor slashes in front of the segment play a part. -/
theorem resolve_between (default : Locale) (slashes : Nat) (rest : List Char) :
    (∀ locale : Locale,
      let found := resolve default (between slashes locale.code.toList rest)
      found = locale ∧ found.direction = locale.direction) ∧
    ∀ segment, IsSegment segment → (∀ locale : Locale, segment ≠ locale.code.toList) →
      let found := resolve default (between slashes segment rest)
      found = default ∧ found.direction = default.direction := by
  constructor
  · intro locale found
    have resolved : found = locale := by
      simp only [found, resolve, locale?_between (isSegment_code locale), segmentLocale?_code,
        Option.getD_some]
    exact ⟨resolved, congrArg Locale.direction resolved⟩
  · intro segment isSegment isNoCode found
    have unnamed : segmentLocale? segment = none := by
      rw [Option.eq_none_iff_forall_ne_some]
      intro locale named
      exact isNoCode locale (segmentLocale?_eq_some_iff.mp named)
    have resolved : found = default := by
      simp only [found, resolve, locale?_between isSegment, unnamed, Option.getD_none]
    exact ⟨resolved, congrArg Locale.direction resolved⟩

/-- A code in capitals is none, and the code behind it does not count. -/
theorem resolve_between_capitals :
    IsSegment "EN".toList ∧ (∀ locale : Locale, "EN".toList ≠ locale.code.toList) ∧
      resolve .zhHk (between 2 "EN".toList "zh-CN/?en ".toList) = .zhHk := by
  have isSegment : IsSegment "EN".toList := by decide
  have isNoCode : ∀ locale : Locale, "EN".toList ≠ locale.code.toList := by
    intro locale
    cases locale <;> decide
  exact ⟨isSegment, isNoCode,
    ((resolve_between .zhHk 2 "zh-CN/?en ".toList).2 _ isSegment isNoCode).1⟩

end PublicSite.Path
