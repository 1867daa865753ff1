import PublicSite.Content.Basic
import PublicSite.Text.Blank

/-!
# Labels of links

Which label a lookup in the menu or in the footer gives.  A lookup takes the first link
that suits and asks no more of it, so its label can be blank: in the menu any label is
taken, in the footer any label that is not empty.
-/

namespace PublicSite.Content

open PublicSite.Text

/-- The link is the first one that suits. -/
def IsFirst (suits : LinkItem → Prop) (links : List LinkItem) (item : LinkItem) : Prop :=
  suits item ∧ ∃ before after, links = before ++ item :: after ∧ ∀ other ∈ before, ¬ suits other

section

variable {links : List LinkItem} {test : LinkItem → Bool} {suits : LinkItem → Prop}

theorem find?_eq_some_iff_isFirst (same : ∀ item, test item = true ↔ suits item)
    (item : LinkItem) : links.find? test = some item ↔ IsFirst suits links item := by
  simp [List.find?_eq_some_iff_append, IsFirst, ← same]

/-- The label of the first link that suits is blank, or there is none and the text in its
place is. -/
theorem isBlank_elim_label_iff (same : ∀ item, test item = true ↔ suits item)
    (fallback : String) :
    isBlank ((links.find? test).elim fallback LinkItem.label).toList = true ↔
      (∃ item, IsFirst suits links item ∧ isBlank item.label.toList = true) ∨
        (∀ item ∈ links, ¬ suits item) ∧ isBlank fallback.toList = true := by
  simp only [← find?_eq_some_iff_isFirst same]
  cases found : links.find? test with
  | none =>
      have absent : ∀ item ∈ links, ¬ suits item := by
        simpa [← same] using found
      simpa using fun _ => absent
  | some first =>
      have present : ¬ ∀ item ∈ links, ¬ suits item := fun absent =>
        absent first (List.mem_of_find?_eq_some found) ((same first).mp (List.find?_some found))
      simp [present]

end

/-- The first link to an href in the menu has a blank label. -/
def HasBlankMenuLabel (content : Content) (href : String) : Prop :=
  ∃ item, IsFirst (·.href = href) content.navbar.menuItems item ∧
    isBlank item.label.toList = true

/-- The first link to an href in the footer that has a label at all has a blank one. -/
def HasBlankFooterLabel (content : Content) (href : String) : Prop :=
  ∃ item, IsFirst (fun item => item.href = href ∧ item.label ≠ "")
    (content.footer.groups.flatMap LinkGroup.items) item ∧ isBlank item.label.toList = true

theorem isBlank_menuLabel_iff (content : Content) (href fallback : String) :
    isBlank (content.menuLabel href fallback).toList = true ↔
      content.HasBlankMenuLabel href ∨
        (∀ item ∈ content.navbar.menuItems, item.href ≠ href) ∧
          isBlank fallback.toList = true := by
  have looked : content.menuLabel href fallback =
      (content.navbar.menuItems.find? fun item => item.href == href).elim fallback
        LinkItem.label := by
    rw [menuLabel]
    split <;> simp [*]
  have same (item : LinkItem) : (item.href == href) = true ↔ item.href = href := beq_iff_eq
  rw [looked, isBlank_elim_label_iff same]
  rfl

theorem isBlank_footerLabel_iff (content : Content) (href fallback : String) :
    isBlank (content.footerLabel href fallback).toList = true ↔
      content.HasBlankFooterLabel href ∨
        (∀ item ∈ content.footer.groups.flatMap LinkGroup.items,
          item.href = href → item.label = "") ∧ isBlank fallback.toList = true := by
  have looked : content.footerLabel href fallback =
      ((content.footer.groups.flatMap LinkGroup.items).find? fun item =>
        item.href == href && !item.label.isEmpty).elim fallback LinkItem.label := by
    rw [footerLabel]
    split <;> simp [*]
  have same (item : LinkItem) : (item.href == href && !item.label.isEmpty) = true ↔
      item.href = href ∧ item.label ≠ "" := by
    simp
  rw [looked, isBlank_elim_label_iff same]
  simp [HasBlankFooterLabel]

end PublicSite.Content
