import PublicSite.Link.Href
import PublicSite.Proofs.Text.Trimming
import PublicSite.Url.Parse

/-!
# Hrefs that seem to stay on the site

A browser does not read an href as it is written: it drops the white space around it
and the tabs and line ends inside it, and on a page of the web protocols it takes a
backslash for a slash.  What begins with two slashes then names another host.

The kind of an href is told from the text as it is written, so a second slash can be
hidden from it.  Hrefs with such a slash are all that leave the site although they are
taken for paths on it.
-/

namespace PublicSite.Link

open PublicSite.Text

/-- A slash, as a browser reads it on a page of the web protocols. -/
def slashed (char : Char) : Char :=
  if char = '\\' then '/' else char

/-- An href as a browser reads it. -/
def asBrowsed (href : List Char) : List Char :=
  ((trim href).filter fun char => !Url.isTabOrLineEnd char).map slashed

/-- A text that names a path on the origin of the page: it begins with a slash and not
with two. -/
def NamesOwnPath (text : List Char) : Prop :=
  ['/'] <+: text ∧ ¬ "//".toList <+: text

instance : DecidablePred NamesOwnPath := fun text =>
  inferInstanceAs (Decidable (['/'] <+: text ∧ ¬ "//".toList <+: text))

/-- Behind a first slash stands another one that the text does not show: a backslash,
or a slash behind tabs and line ends. -/
def HidesSlash (text : List Char) : Prop :=
  ∃ gap slash rest, text = '/' :: (gap ++ slash :: rest) ∧
    (∀ char ∈ gap, Url.isTabOrLineEnd char = true) ∧
    (slash = '\\' ∨ slash = '/' ∧ gap ≠ [])

theorem exists_of_internal {href : List Char} (internal : hrefKind href = .internal) :
    ∃ rest, trim href = '/' :: rest ∧ rest.head? ≠ some '/' := by
  simp only [hrefKind] at internal
  split_ifs at internal with _ _ _ _ _ isRooted
  obtain ⟨first, second⟩ := Bool.and_eq_true_iff.mp isRooted
  obtain ⟨rest, text⟩ := List.head?_eq_some_iff.mp (beq_iff_eq.mp first)
  refine ⟨rest, text, fun twice => ?_⟩
  obtain ⟨others, rfl⟩ := List.head?_eq_some_iff.mp twice
  rw [text] at second
  exact absurd second (by simp)

theorem slashed_eq_slash_iff {char : Char} : slashed char = '/' ↔ char = '/' ∨ char = '\\' := by
  by_cases back : char = '\\' <;> simp [slashed, back]

theorem asBrowsed_of_trim {href rest : List Char} (text : trim href = '/' :: rest) :
    asBrowsed href =
      '/' :: (rest.filter fun char => !Url.isTabOrLineEnd char).map slashed := by
  rw [asBrowsed, text, List.filter_cons_of_pos (by decide), List.map_cons]
  rfl

/-- What a browser reads behind the first slash begins with another one exactly when
the first character that counts is a slash of either kind. -/
theorem begins_with_slash_iff {rest : List Char} :
    ['/'] <+: (rest.filter fun char => !Url.isTabOrLineEnd char).map slashed ↔
      ∃ gap slash behind, rest = gap ++ slash :: behind ∧
        (∀ char ∈ gap, Url.isTabOrLineEnd char = true) ∧ (slash = '/' ∨ slash = '\\') := by
  have firstOf : ∀ text : List Char, ['/'] <+: text ↔ text.head? = some '/' := fun text => by
    cases text <;> simp [eq_comm]
  rw [firstOf, List.head?_map, List.head?_filter, Option.map_eq_some_iff]
  simp only [slashed_eq_slash_iff, List.find?_eq_some_iff_append]
  constructor
  · rintro ⟨slash, ⟨-, gap, behind, split, skipped⟩, isSlash⟩
    exact ⟨gap, slash, behind, split, by simpa using skipped, isSlash⟩
  · rintro ⟨gap, slash, behind, split, skipped, isSlash⟩
    refine ⟨slash, ⟨?_, gap, behind, split, by simpa using skipped⟩, isSlash⟩
    rcases isSlash with rfl | rfl <;> decide

/-- An href that is taken for a path on the site begins with a slash for every browser,
and it stays on the site exactly when it hides no second one. -/
theorem namesOwnPath_iff_of_internal {href : List Char} (internal : hrefKind href = .internal) :
    ['/'] <+: asBrowsed href ∧
      (NamesOwnPath (asBrowsed href) ↔ ¬ HidesSlash (trim href)) := by
  obtain ⟨rest, text, noSecond⟩ := exists_of_internal internal
  have begins : ['/'] <+: asBrowsed href := by
    rw [asBrowsed_of_trim text]
    exact ⟨_, rfl⟩
  refine ⟨begins, ?_⟩
  have twice : "//".toList <+: asBrowsed href ↔ HidesSlash (trim href) := by
    rw [asBrowsed_of_trim text, text]
    change '/' :: ['/'] <+: _ ↔ _
    rw [List.prefix_cons_inj, begins_with_slash_iff]
    constructor
    · rintro ⟨gap, slash, behind, rfl, skipped, isSlash⟩
      refine ⟨gap, slash, behind, rfl, skipped, isSlash.symm.imp_right fun plain => ?_⟩
      -- A slash that nothing stands before would have been seen.
      refine ⟨plain, fun none => noSecond ?_⟩
      rw [none, plain, List.nil_append, List.head?_cons]
    · rintro ⟨gap, slash, behind, split, skipped, isSlash⟩
      exact ⟨gap, slash, behind, (List.cons.inj split).2, skipped,
        (isSlash.imp_right And.left).symm⟩
  rw [NamesOwnPath, twice]
  exact ⟨And.right, fun hidden => ⟨begins, hidden⟩⟩

/-- A tab between two slashes hides the second one. -/
theorem namesOwnPath_iff_of_internal_tab :
    let href := "/\t/evil.example/login".toList
    hrefKind href = .internal ∧ HidesSlash (trim href) ∧ ¬ NamesOwnPath (asBrowsed href) := by
  intro href
  have internal : hrefKind href = .internal := by decide
  have leaves : ¬ NamesOwnPath (asBrowsed href) := by decide
  refine ⟨internal, not_not.mp fun shown => leaves ?_, leaves⟩
  exact (namesOwnPath_iff_of_internal internal).2.mpr shown

/-- A backslash behind the first slash leads to another host. -/
theorem not_namesOwnPath_backslash :
    hrefKind "/\\evil.example".toList = .internal ∧
      ¬ NamesOwnPath (asBrowsed "/\\evil.example".toList) := by
  decide

end PublicSite.Link
