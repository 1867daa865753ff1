import PublicSite.Proofs.Path.Idempotence
import PublicSite.Seo.Metadata

/-!
# The alternates of a page

A page lists its path in every locale and then the one for everyone else.  Its
canonical path is the one listed for its own locale exactly when the path is
settled, since the list is made from what is left without the locale, whose
locale is then taken off once more.
-/

namespace PublicSite.Seo

open PublicSite.Text

/-- The path that is listed for readers of a language. -/
def Metadata.hrefFor? (metadata : Metadata) (language : String) : Option String :=
  (metadata.alternates.find? fun alternate => alternate.language == language).map
    Alternate.href

namespace Metadata

section

variable (locale default : Locale) (path title description : String) (visibility : Visibility)

theorem languages_localized :
    (localized locale default path title description visibility).alternates.map
        Alternate.language =
      Locale.all.map Locale.code ++ [anyLanguage] :=
  rfl

theorem hrefFor?_code (other : Locale) :
    (localized locale default path title description visibility).hrefFor? other.code =
      some (String.ofList (Path.localize (Path.normalize path.toList) other)) := by
  cases other <;> rfl

theorem hrefFor?_anyLanguage :
    (localized locale default path title description visibility).hrefFor? anyLanguage =
      some (String.ofList (Path.localize (Path.normalize path.toList) default)) :=
  rfl

end

/-- Every locale is listed in order and then the default for everyone else, and
the canonical path is among them exactly when the path is settled. -/
theorem alternates_localized (locale default : Locale) (path title description : String)
    (visibility : Visibility) :
    let metadata := localized locale default path title description visibility
    metadata.alternates.map Alternate.language =
        Locale.all.map Locale.code ++ [anyLanguage] ∧
      (∃ href, metadata.hrefFor? default.code = some href ∧
        metadata.hrefFor? anyLanguage = some href) ∧
      (metadata.hrefFor? locale.code = some metadata.canonical ↔
        Path.IsSettled path.toList) := by
  intro metadata
  refine ⟨languages_localized locale default path title description visibility,
    ⟨_, hrefFor?_code locale default path title description visibility default,
      hrefFor?_anyLanguage locale default path title description visibility⟩, ?_⟩
  have canonical_eq : metadata.canonical =
      String.ofList (Path.localize path.toList locale) := rfl
  rw [hrefFor?_code, canonical_eq, Option.some.injEq, String.ofList_inj,
    Path.localize_normalize_eq_iff]

/-- The canonical path keeps a second locale that the alternates have lost. -/
theorem canonical_ne_hrefFor?_code :
    let metadata := localized .en .en "/en/en/about-us" "About us" "" .indexed
    metadata.hrefFor? Locale.en.code ≠ some metadata.canonical := by
  decide

end Metadata

end PublicSite.Seo
