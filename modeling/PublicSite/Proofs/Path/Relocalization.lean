import PublicSite.Proofs.Path.Resolution

/-!
# Moving a path from one locale to another

A path that is written by its segments keeps all of them when its locale is taken off
or replaced, except the first one when this is the code of a locale.  Only the first
one is ever read as such, so codes that stand further back stay where they are, and
the locale under which a path was put before leaves no trace.
-/

namespace PublicSite.Path

open PublicSite.Text

/-- Segments that can be written as a path from which nothing is trimmed. -/
structure AreSegments (parts : List (List Char)) : Prop where
  isSegment : ∀ part ∈ parts, IsSegment part
  ends : ∀ last ∈ parts.getLast?, trimRight last = last

/-- Segments with a slash before each one, or the bare root. -/
def pathOf (parts : List (List Char)) : List Char :=
  '/' :: join ['/'] parts

/-- The segments behind that of a locale. -/
def withoutLocale : List (List Char) → List (List Char)
  | [] => []
  | first :: rest => if (segmentLocale? first).isSome then rest else first :: rest

theorem AreSegments.tail {first : List Char} {rest : List (List Char)}
    (areSegments : AreSegments (first :: rest)) : AreSegments rest where
  isSegment := fun part member => areSegments.isSegment part (List.mem_cons_of_mem first member)
  ends := by
    intro last isLast
    cases rest with
    | nil => exact nomatch isLast
    | cons second others => exact areSegments.ends last isLast

theorem areSegments_withoutLocale {parts : List (List Char)} (areSegments : AreSegments parts) :
    AreSegments (withoutLocale parts) := by
  cases parts with
  | nil => exact areSegments
  | cons first rest =>
      simp only [withoutLocale]
      split
      · exact areSegments.tail
      · exact areSegments

theorem AreSegments.cons_code {parts : List (List Char)} (areSegments : AreSegments parts)
    (locale : Locale) : AreSegments (locale.code.toList :: parts) where
  isSegment := by
    intro part member
    rcases List.mem_cons.mp member with rfl | inParts
    · exact isSegment_code locale
    · exact areSegments.isSegment part inParts
  ends := by
    intro last isLast
    cases parts with
    | nil =>
        obtain rfl := Option.mem_some.mp isLast
        exact trimRight_code locale
    | cons second others => exact areSegments.ends last isLast

@[simp]
theorem withoutLocale_cons_code (locale : Locale) (parts : List (List Char)) :
    withoutLocale (locale.code.toList :: parts) = parts := by
  simp [withoutLocale]

/-! ## Paths by their segments -/

/-- Joined segments end as the last one does. -/
theorem trimRight_join {parts : List (List Char)} (areSegments : AreSegments parts) :
    trimRight (join ['/'] parts) = join ['/'] parts := by
  induction parts with
  | nil => rfl
  | cons first rest ih =>
      cases rest with
      | nil => exact areSegments.ends first rfl
      | cons second others =>
          have kept := ih areSegments.tail
          have notEmpty : join ['/'] (second :: others) ≠ [] :=
            (dropEndWhile_join (List.cons_ne_nil _ _) areSegments.tail.isSegment).2
          rw [join_cons_cons]
          exact dropEndWhile_append_of_kept kept notEmpty _

theorem sanitize_pathOf {parts : List (List Char)} (areSegments : AreSegments parts) :
    sanitize (pathOf parts) = pathOf parts := by
  have pathname : IsPathname (pathOf parts) := isPathname_join areSegments.isSegment
  have trimmed : trimRight (pathOf parts) = pathOf parts := by
    rw [pathOf, trimRight_cons (by decide), trimRight_join areSegments]
  exact pathname.sanitize_eq_iff.mpr trimmed

theorem segments_pathOf {parts : List (List Char)} (areSegments : AreSegments parts) :
    segments (pathOf parts) = parts := by
  rw [segments, pathOf, fields_cons_separator rfl]
  exact fields_join rfl fun part member =>
    ⟨(areSegments.isSegment part member).notEmpty, (areSegments.isSegment part member).noSlash⟩

theorem normalize_pathOf {parts : List (List Char)} (areSegments : AreSegments parts) :
    normalize (pathOf parts) = pathOf (withoutLocale parts) := by
  rw [normalize, sanitize_pathOf areSegments, segments_pathOf areSegments]
  cases parts with
  | nil => rfl
  | cons first rest =>
      simp only [withoutLocale]
      split <;> rfl

/-- The code of the locale becomes the first segment. -/
theorem localize_pathOf {parts : List (List Char)} (areSegments : AreSegments parts)
    (locale : Locale) :
    localize (pathOf parts) locale = pathOf (locale.code.toList :: withoutLocale parts) := by
  rw [localize_eq, normalize_pathOf areSegments]
  have stripped := areSegments_withoutLocale areSegments
  cases left : withoutLocale parts with
  | nil => simp [pathOf, join, tail]
  | cons first rest =>
      rw [left] at stripped
      have notRoot : pathOf (first :: rest) ≠ ['/'] := by
        intro root
        exact (dropEndWhile_join (List.cons_ne_nil _ _) stripped.isSegment).2
          (List.cons.inj root).2
      rw [tail, if_neg (by simpa using notRoot), pathOf, pathOf, join_cons_cons]
      simp

/-- Putting a path under a second locale leaves no trace of the first one: the result is
that of the path itself, and so is what is left without a locale, which is the path
itself unless its first segment was a locale. -/
theorem localize_localize {parts : List (List Char)} (areSegments : AreSegments parts)
    (first second : Locale) :
    localize (localize (pathOf parts) first) second = localize (pathOf parts) second ∧
      normalize (localize (pathOf parts) first) = normalize (pathOf parts) ∧
      ((∀ segment ∈ parts.head?, ∀ locale : Locale, segment ≠ locale.code.toList) →
        normalize (localize (pathOf parts) first) = pathOf parts) := by
  have moved := (areSegments_withoutLocale areSegments).cons_code first
  have stripped : normalize (localize (pathOf parts) first) = pathOf (withoutLocale parts) := by
    rw [localize_pathOf areSegments, normalize_pathOf moved, withoutLocale_cons_code]
  refine ⟨?_, ?_, ?_⟩
  · rw [localize_pathOf areSegments, localize_pathOf moved, withoutLocale_cons_code,
      localize_pathOf areSegments]
  · rw [stripped, normalize_pathOf areSegments]
  · intro noCode
    rw [stripped]
    cases parts with
    | nil => rfl
    | cons segment rest =>
        have unnamed : segmentLocale? segment = none := by
          rw [Option.eq_none_iff_forall_ne_some]
          intro locale named
          exact noCode segment rfl locale (segmentLocale?_eq_some_iff.mp named)
        rw [withoutLocale, unnamed]
        rfl

/-- A path under one locale, with the code of another behind it. -/
theorem localize_localize_nested :
    AreSegments ["zh-CN".toList, "en".toList, "a b".toList] ∧
      localize (localize "/zh-CN/en/a b".toList .zhHk) .en = "/en/en/a b".toList := by
  have areSegments : AreSegments ["zh-CN".toList, "en".toList, "a b".toList] :=
    ⟨by simp only [List.forall_mem_cons]; decide, by simp; decide⟩
  refine ⟨areSegments, ?_⟩
  have moved := (localize_localize areSegments .zhHk .en).1
  have written : pathOf ["zh-CN".toList, "en".toList, "a b".toList] = "/zh-CN/en/a b".toList := by
    decide
  rw [written] at moved
  rw [moved]
  decide

end PublicSite.Path
