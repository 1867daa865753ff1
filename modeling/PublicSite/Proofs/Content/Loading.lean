import PublicSite.Content.Catalog

/-!
# Loading a catalog

Which texts load, into what, and what is said about the others.  The rules are stated
as a relation between texts and results that knows nothing of how loading proceeds: a
text that cannot be read comes before everything that is wrong with texts that can be,
and then the first fault of the first locale counts.  Loading follows exactly these
rules, so it always has a result, and only one.
-/

namespace PublicSite

open PublicSite.Text

namespace Content

/-! ## One bundle -/

/-- The texts that must not be blank, with the names under which they are reported. -/
def checkedTexts (content : Content) : List (String × String) :=
  [("meta.title", content.overview.title), ("meta.description", content.overview.description),
    ("navbar.brand", content.navbar.brand), ("notFound.title", content.notFound.title),
    ("home", content.pages.home.title), ("aboutUs", content.pages.aboutUs.title),
    ("contactUs", content.pages.contactUs.title), ("events", content.pages.events.title),
    ("trainingCourse", content.pages.trainingCourse.title),
    ("privacy", content.pages.privacy.title), ("workshops", content.pages.workshops.title),
    ("terms", content.pages.terms.title)]

/-- Content that pages in a locale can rely on. -/
structure IsSound (locale : Locale) (content : Content) : Prop where
  texts : ∀ entry ∈ content.checkedTexts, isBlank entry.2.toList = false
  direction : content.overview.direction = locale.direction

/-- What can be wrong with content. -/
inductive Flaw where
  /-- The text with this name is blank. -/
  | blank (name : String)
  /-- The content runs in another direction than its locale. -/
  | direction (declared : Direction)
  deriving DecidableEq, Repr

/-- The first thing that is wrong with content. -/
inductive HasFirst (locale : Locale) (content : Content) : Flaw → Prop
  | blank {before after : List (String × String)} {name text : String}
      (texts : content.checkedTexts = before ++ (name, text) :: after)
      (earlier : ∀ entry ∈ before, isBlank entry.2.toList = false)
      (isBlank : isBlank text.toList = true) : HasFirst locale content (.blank name)
  | direction (texts : ∀ entry ∈ content.checkedTexts, isBlank entry.2.toList = false)
      (differs : content.overview.direction ≠ locale.direction) :
      HasFirst locale content (.direction content.overview.direction)

namespace Flaw

/-- The failure that reports a flaw. -/
def failure (locale : Locale) : Flaw → Failure LocaleCause
  | blank name => ⟨.invalid (name ++ " must not be blank"), some ("Locale " ++ locale.code)⟩
  | direction declared =>
      ⟨.invalid ("meta.direction is " ++ declared.code ++ " but " ++ locale.code ++ " is "
        ++ locale.direction.code), none⟩

/-- What the failure says. -/
def text (locale : Locale) : Flaw → String
  | blank name =>
      "Content validation error (Locale " ++ locale.code ++ "): " ++ name ++ " must not be blank"
  | direction declared =>
      "Content validation error: meta.direction is " ++ declared.code ++ " but " ++ locale.code
        ++ " is " ++ locale.direction.code

theorem message_failure (locale : Locale) (flaw : Flaw) :
    (flaw.failure locale).message = flaw.text locale := by
  cases flaw with
  | blank name =>
      have opening : "Content validation error (Locale " =
          "Content validation error" ++ " (" ++ "Locale " := by simp
      have closing : "): " = ")" ++ ": " := by simp
      change "Content validation error" ++ (" (" ++ ("Locale " ++ locale.code) ++ ")") ++ ": "
          ++ (name ++ " must not be blank") =
        "Content validation error (Locale " ++ locale.code ++ "): " ++ name
          ++ " must not be blank"
      simp only [opening, closing, String.append_assoc]
  | direction declared =>
      have opening : "Content validation error: meta.direction is " =
          "Content validation error" ++ "" ++ ": " ++ "meta.direction is " := by simp
      change "Content validation error" ++ "" ++ ": " ++ ("meta.direction is " ++ declared.code
          ++ " but " ++ locale.code ++ " is " ++ locale.direction.code) =
        "Content validation error: meta.direction is " ++ declared.code ++ " but " ++ locale.code
          ++ " is " ++ locale.direction.code
      simp only [opening, String.append_assoc]

end Flaw

variable {locale : Locale} {content : Content}

theorem requiredTexts_eq (content : Content) : content.requiredTexts = content.checkedTexts :=
  rfl

/-- Content that is not sound has a first flaw. -/
theorem isSound_or_hasFirst (locale : Locale) (content : Content) :
    IsSound locale content ∨ ∃ flaw, HasFirst locale content flaw := by
  cases found : content.checkedTexts.find? fun entry => isBlank entry.2.toList with
  | none =>
      have texts : ∀ entry ∈ content.checkedTexts, isBlank entry.2.toList = false := by
        simpa using found
      by_cases same : content.overview.direction = locale.direction
      · exact Or.inl ⟨texts, same⟩
      · exact Or.inr ⟨_, .direction texts same⟩
  | some entry =>
      obtain ⟨blank, before, after, whole, earlier⟩ := List.find?_eq_some_iff_append.mp found
      exact Or.inr ⟨_, .blank whole (by simpa using earlier) blank⟩

theorem check_of_isSound (sound : IsSound locale content) : content.check locale = .ok () := by
  have nothing : content.blankText? = none := by
    rw [blankText?, requiredTexts_eq, Option.map_eq_none_iff, List.find?_eq_none]
    simpa using sound.texts
  rw [check, nothing]
  exact if_pos sound.direction

theorem check_of_hasFirst {flaw : Flaw} (first : HasFirst locale content flaw) :
    content.check locale = .error (flaw.failure locale) := by
  cases first with
  | blank texts earlier blank =>
      rename_i before after name text
      have found : content.blankText? = some name := by
        have isFirst : content.checkedTexts.find? (fun entry => isBlank entry.2.toList) =
            some (name, text) :=
          List.find?_eq_some_iff_append.mpr ⟨blank, before, after, texts, by simpa using earlier⟩
        rw [blankText?, requiredTexts_eq, isFirst]
        rfl
      rw [check, found]
      rfl
  | direction texts differs =>
      have nothing : content.blankText? = none := by
        rw [blankText?, requiredTexts_eq, Option.map_eq_none_iff, List.find?_eq_none]
        simpa using texts
      rw [check, nothing]
      exact if_neg differs

theorem read_of_ok {text : String} (reads : parse text = .ok content) :
    read locale text = .ok content := by
  rw [read, reads]

/-- The failure that reports a text that is no bundle. -/
def unreadable (locale : Locale) (fault : Json.Fault) : Failure LocaleCause :=
  ⟨.malformed fault, some ("Parsing " ++ locale.code ++ " bundle")⟩

theorem summary_unreadable (locale : Locale) (fault : Json.Fault) :
    (unreadable locale fault).summary =
      "Content bundle error (Parsing " ++ locale.code ++ " bundle)" := by
  have opening : "Content bundle error (Parsing " =
      "Content bundle error" ++ " (" ++ "Parsing " := by simp
  have closing : " bundle)" = " bundle" ++ ")" := by simp
  change "Content bundle error" ++ (" (" ++ ("Parsing " ++ locale.code ++ " bundle") ++ ")") = _
  simp only [opening, closing, String.append_assoc]

theorem read_of_error {text : String} {fault : Json.Fault} (refused : parse text = .error fault) :
    read locale text = .error (unreadable locale fault) := by
  rw [read, refused]
  rfl

end Content

/-! ## All bundles -/

namespace Locale

/-- The locales that come before a locale. -/
def earlier (locale : Locale) : List Locale :=
  all.takeWhile (· != locale)

/-- What does not hold of every locale fails first at one of them. -/
theorem forall_or_first (holds : Locale → Prop) :
    (∀ locale, holds locale) ∨
      ∃ locale, ¬ holds locale ∧ ∀ other ∈ earlier locale, holds other := by
  have beforeZhHk : earlier .zhHk = [.en, .zhCn] := rfl
  have beforeZhCn : earlier .zhCn = [.en] := rfl
  have beforeEn : earlier .en = [] := rfl
  by_cases en : holds .en
  · by_cases zhCn : holds .zhCn
    · by_cases zhHk : holds .zhHk
      · exact Or.inl fun locale => by cases locale <;> assumption
      · exact Or.inr ⟨.zhHk, zhHk, by simp [beforeZhHk, en, zhCn]⟩
    · exact Or.inr ⟨.zhCn, zhCn, by simp [beforeZhCn, en]⟩
  · exact Or.inr ⟨.en, en, by simp [beforeEn]⟩

end Locale

namespace Catalog

open PublicSite.Content

variable {texts : Locale → String}

/-- The results of loading: a catalog of the contents that the texts hold when all of
them can be read and relied on, and else the first failure, where a text that cannot be
read comes before every flaw. -/
inductive Loads (texts : Locale → String) : Except (Failure LocaleCause) Catalog → Prop
  | unreadable {locale : Locale} {fault : Json.Fault}
      (earlier : ∀ other ∈ locale.earlier, ∃ content, parse (texts other) = .ok content)
      (refused : parse (texts locale) = .error fault) :
      Loads texts (.error (unreadable locale fault))
  | flawed {catalog : Catalog} {locale : Locale} {flaw : Flaw}
      (reads : ∀ locale, parse (texts locale) = .ok (catalog.content locale))
      (earlier : ∀ other ∈ locale.earlier, IsSound other (catalog.content other))
      (first : HasFirst locale (catalog.content locale) flaw) :
      Loads texts (.error (flaw.failure locale))
  | loaded {catalog : Catalog}
      (reads : ∀ locale, parse (texts locale) = .ok (catalog.content locale))
      (sound : ∀ locale, IsSound locale (catalog.content locale)) :
      Loads texts (.ok catalog)

theorem ofTexts_of_unreadable {locale : Locale} {fault : Json.Fault}
    (earlier : ∀ other ∈ locale.earlier, ∃ content, parse (texts other) = .ok content)
    (refused : parse (texts locale) = .error fault) :
    ofTexts texts = .error (Content.unreadable locale fault) := by
  cases locale with
  | en =>
      rw [ofTexts, read_of_error refused]
      rfl
  | zhCn =>
      obtain ⟨en, readsEn⟩ := earlier .en (by decide)
      rw [ofTexts, read_of_ok readsEn, read_of_error refused]
      rfl
  | zhHk =>
      obtain ⟨en, readsEn⟩ := earlier .en (by decide)
      obtain ⟨zhCn, readsZhCn⟩ := earlier .zhCn (by decide)
      rw [ofTexts, read_of_ok readsEn, read_of_ok readsZhCn, read_of_error refused]
      rfl

/-- When every text can be read, the contents are checked as one catalog. -/
theorem ofTexts_of_reads {catalog : Catalog}
    (reads : ∀ locale, parse (texts locale) = .ok (catalog.content locale)) :
    ofTexts texts = catalog.check.map fun _ => catalog := by
  have same : ofBundles (catalog.content .en) (catalog.content .zhCn) (catalog.content .zhHk) =
      catalog := by
    have each : (ofBundles (catalog.content .en) (catalog.content .zhCn)
        (catalog.content .zhHk)).content = catalog.content := by
      funext locale
      cases locale <;> rfl
    exact congrArg Catalog.mk each
  rw [ofTexts, read_of_ok (reads .en), read_of_ok (reads .zhCn), read_of_ok (reads .zhHk)]
  change (do
    (ofBundles (catalog.content .en) (catalog.content .zhCn) (catalog.content .zhHk)).check
    return ofBundles (catalog.content .en) (catalog.content .zhCn) (catalog.content .zhHk)) = _
  rw [same]
  cases catalog.check <;> rfl

theorem check_of_sound {catalog : Catalog}
    (sound : ∀ locale, IsSound locale (catalog.content locale)) : catalog.check = .ok () := by
  have each (locale : Locale) := check_of_isSound (sound locale)
  simp only [check, checkAll, Locale.all, each]
  rfl

theorem check_of_flawed {catalog : Catalog} {locale : Locale} {flaw : Flaw}
    (earlier : ∀ other ∈ locale.earlier, IsSound other (catalog.content other))
    (first : HasFirst locale (catalog.content locale) flaw) :
    catalog.check = .error (flaw.failure locale) := by
  have fails := check_of_hasFirst first
  cases locale with
  | en =>
      simp only [check, checkAll, Locale.all, fails]
      rfl
  | zhCn =>
      have en := check_of_isSound (earlier .en (by decide))
      simp only [check, checkAll, Locale.all, en, fails]
      rfl
  | zhHk =>
      have en := check_of_isSound (earlier .en (by decide))
      have zhCn := check_of_isSound (earlier .zhCn (by decide))
      simp only [check, checkAll, Locale.all, en, zhCn, fails]
      rfl

theorem ofTexts_of_loads {result : Except (Failure LocaleCause) Catalog}
    (loads : Loads texts result) : ofTexts texts = result := by
  cases loads with
  | unreadable earlier refused => exact ofTexts_of_unreadable earlier refused
  | flawed reads earlier first =>
      rw [ofTexts_of_reads reads, check_of_flawed earlier first]
      rfl
  | loaded reads sound =>
      rw [ofTexts_of_reads reads, check_of_sound sound]
      rfl

/-- Whatever the texts are, loading has one of these results. -/
theorem exists_loads (texts : Locale → String) : ∃ result, Loads texts result := by
  rcases Locale.forall_or_first fun locale => ∃ content, parse (texts locale) = .ok content with
    reads | ⟨locale, refused, earlier⟩
  · obtain ⟨content, read⟩ := Classical.skolem.mp reads
    let catalog : Catalog := ⟨content⟩
    have reads : ∀ locale, parse (texts locale) = .ok (catalog.content locale) := read
    rcases Locale.forall_or_first fun locale => IsSound locale (catalog.content locale) with
      sound | ⟨locale, unsound, earlier⟩
    · exact ⟨_, .loaded reads sound⟩
    · obtain ⟨flaw, first⟩ := (isSound_or_hasFirst _ _).resolve_left unsound
      exact ⟨_, .flawed reads earlier first⟩
  · cases read : parse (texts locale) with
    | error fault => exact ⟨_, .unreadable earlier read⟩
    | ok content => exact absurd ⟨content, read⟩ refused

theorem loads_ofTexts (texts : Locale → String) : Loads texts (ofTexts texts) := by
  obtain ⟨result, loads⟩ := exists_loads texts
  rwa [ofTexts_of_loads loads]

/-- Pages can rely on every content of a catalog that was loaded. -/
theorem isSound_of_ofTexts {catalog : Catalog} (accepted : ofTexts texts = .ok catalog)
    (locale : Locale) : IsSound locale (catalog.content locale) := by
  have loads := loads_ofTexts texts
  rw [accepted] at loads
  cases loads with
  | loaded reads sound => exact sound locale

/-- Loading follows the rules, and what it says names the locale and what is wrong. -/
theorem ofTexts_eq_iff_loads (texts : Locale → String) :
    (∀ result, ofTexts texts = result ↔ Loads texts result) ∧
      (∀ locale fault, (Content.unreadable locale fault).summary =
        "Content bundle error (Parsing " ++ locale.code ++ " bundle)") ∧
      ∀ locale flaw, (Flaw.failure locale flaw).message = flaw.text locale := by
  refine ⟨fun result => ⟨?_, ofTexts_of_loads⟩, summary_unreadable, Flaw.message_failure⟩
  rintro rfl
  exact loads_ofTexts texts

end Catalog

end PublicSite
