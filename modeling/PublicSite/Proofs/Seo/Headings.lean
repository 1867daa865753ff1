import PublicSite.Proofs.Content.Labels
import PublicSite.Proofs.Content.Loading
import PublicSite.Proofs.Content.Serving
import PublicSite.Proofs.Markup.Texts
import PublicSite.Proofs.Seo.Layout
import PublicSite.Seo.Site

/-!
# Titles and headings

Every page shows one title and one heading.  When its content was loaded with a catalog,
they can only be blank through a label: the title of a placeholder through one in the
footer, and a heading through one in the menu, or through such a title.
-/

namespace PublicSite.Seo

open PublicSite.Text PublicSite.Markup

/-- The titles of a page. -/
def titles (page : String) : List String :=
  textsOf "title" page

/-- The headings of a page. -/
def headings (page : String) : List String :=
  textsOf "h1" page

/-- The elements that show what a page is about. -/
def IsShown (name : String) : Prop :=
  name = "title" ∨ name = "h1"

namespace Document

open PublicSite.Markup.Node

section

variable (document : Document) {name : String} (shown : IsShown name)

include shown

theorem areSilent_alternates (alternates : List Alternate) :
    AreSilent name (alternates.map document.alternate) := by
  refine areSilent_map (fun _ _ => ?_) (fun _ _ => rfl) alternates
  rcases shown with rfl | rfl <;> rfl

theorem areSilent_schemas (schemas : List Json.Value) :
    AreSilent name (schemas.map structuredData) := by
  refine areSilent_map (fun _ _ => ?_) (fun _ _ => rfl) schemas
  rcases shown with rfl | rfl <;> rfl

theorem texts_head (behind : List Char) :
    document.head.texts name behind =
      if name = "title" then [document.metadata.title.toList] else [] := by
  have script : AreSilent name [.script [("src", Content.scriptPath)] []] :=
    ⟨by rcases shown with rfl | rfl <;> rfl, rfl⟩
  rw [head, texts, (areSilent_schemas shown _).textsOfAll_append, script.textsOfAll_append,
    (document.areSilent_alternates shown _).textsOfAll_append]
  rcases shown with rfl | rfl <;> simp [textsOfAll, texts, leadingOfAll, leading]

theorem areSilent_links (items : List Content.LinkItem) :
    AreSilent name (items.map document.link) := by
  refine areSilent_map (fun _ _ => ?_) (fun _ _ => rfl) items
  rcases shown with rfl | rfl <;> rfl

theorem texts_navigation (behind : List Char) :
    document.navigation.texts name behind = [] := by
  have booking := document.areSilent_links shown [document.page.content.navbar.bookNow]
  have links := document.areSilent_links shown
    (⟨document.page.content.navbar.brand, "/"⟩ :: document.page.content.navbar.menuItems)
  rw [List.map_cons] at links
  rw [List.map_singleton] at booking
  rw [navigation, texts, booking.textsOfAll_append, links.texts]
  rcases shown with rfl | rfl <;> rfl

theorem areSilent_linkGroups (groups : List Content.LinkGroup) :
    AreSilent name (groups.map document.linkGroup) := by
  refine areSilent_map (fun group _ => ?_) (fun _ _ => rfl) groups
  rw [linkGroup, texts, textsOfAll, (document.areSilent_links shown group.items).texts]
  rcases shown with rfl | rfl <;> rfl

theorem texts_body (behind : List Char) :
    document.body.texts name behind =
      if name = "h1" then [document.heading.toList] else [] := by
  have copyright : AreSilent name
      [.element "p" [] [.text document.page.content.footer.copyright]] :=
    ⟨by rcases shown with rfl | rfl <;> rfl, rfl⟩
  have groups := document.areSilent_linkGroups shown document.page.content.footer.groups
  have navigation := document.texts_navigation shown
  simp only [body, texts, textsOfAll, copyright.textsOfAll_append, groups.texts, navigation]
  rcases shown with rfl | rfl <;> simp [leadingOfAll, leading]

/-- A rendered document shows its title once and its heading once. -/
theorem textsOf_render :
    textsOf name document.render =
      if name = "title" then [document.metadata.title] else [document.heading] := by
  rw [render, textsOf_renderDocument document.isReadable_tree, tree, texts]
  simp only [textsOfAll, document.texts_head shown, document.texts_body shown]
  rcases shown with rfl | rfl <;> simp

end

theorem titles_render (document : Document) :
    titles document.render = [document.metadata.title] :=
  document.textsOf_render (Or.inl rfl)

theorem headings_render (document : Document) :
    headings document.render = [document.heading] :=
  document.textsOf_render (Or.inr rfl)

end Document

/-! ## Pages of a catalog -/

section

variable (seo : Seo) {locale : Locale} {content : Content} (sound : Content.IsSound locale content)

include sound

theorem isBlank_title_copy (route : Route) :
    isBlank (route.copy content).title.toList = false := by
  have texts := sound.texts
  simp only [Content.checkedTexts, List.forall_mem_cons] at texts
  cases route <;> simp [Route.copy, texts]

theorem isBlank_title_iff (route : Route) :
    isBlank (seo.routeMetadata ⟨locale, content⟩ route).title.toList = true ↔
      route.visibility = .placeholder ∧ content.HasBlankFooterLabel route.path := by
  have copy := isBlank_title_copy sound route
  cases visibility : route.visibility with
  | indexed => simp [routeMetadata, Metadata.localized, visibility, copy]
  | placeholder =>
      simp [routeMetadata, Metadata.localized, visibility, Content.isBlank_footerLabel_iff, copy]

end

/-- The document of a page shows its title and its heading, each once.  In an accepted
catalog the title is not blank unless the page is a placeholder whose label in the footer
is, and the heading is not blank unless the label in the menu is, or there is none and the
title is. -/
theorem routeDocument_shows {texts : Locale → String} {catalog : Catalog}
    (accepted : Catalog.ofTexts texts = .ok catalog) (seo : Seo) (locale : Locale)
    (route : Route) :
    (titles (seo.routeDocument (catalog.page locale) route).render =
        [(seo.routeMetadata (catalog.page locale) route).title] ∧
      headings (seo.routeDocument (catalog.page locale) route).render =
        [seo.heading (catalog.page locale) route]) ∧
      (isBlank (seo.routeMetadata (catalog.page locale) route).title.toList = true ↔
        route ∈ Route.placeholders ∧
          (catalog.content locale).HasBlankFooterLabel route.path) ∧
      (isBlank (seo.heading (catalog.page locale) route).toList = true ↔
        (catalog.content locale).HasBlankMenuLabel route.path ∨
          (∀ item ∈ (catalog.content locale).navbar.menuItems, item.href ≠ route.path) ∧
            isBlank (seo.routeMetadata (catalog.page locale) route).title.toList = true) := by
  have sound := Catalog.isSound_of_ofTexts accepted locale
  refine ⟨⟨Document.titles_render _, Document.headings_render _⟩, ?_, ?_⟩
  · rw [Route.mem_placeholders_iff]
    exact isBlank_title_iff seo sound route
  · exact Content.isBlank_menuLabel_iff _ _ _

/-- A site at its own host. -/
def hosted : Seo where
  origin := "https://www.evolvesprouts.com"
  host := "www.evolvesprouts.com"
  defaultLocale := .en
  links := {}

theorem isSound_delivered (locale : Locale) :
    Content.IsSound locale (Catalog.delivered.content locale) := by
  cases locale <;> exact ⟨by decide +kernel, rfl⟩

/-- The page on privacy shows its label in the footer as title and heading. -/
theorem routeDocument_shows_privacy :
    Catalog.ofTexts (fun locale => (Catalog.delivered.content locale).value.compactText) =
        .ok Catalog.delivered ∧
      titles (hosted.routeDocument (Catalog.delivered.page .en) .privacy).render =
        ["Privacy Policy"] ∧
      headings (hosted.routeDocument (Catalog.delivered.page .en) .privacy).render =
        ["Privacy Policy"] ∧
      ¬ (Catalog.delivered.content .en).HasBlankFooterLabel Route.privacy.path := by
  have accepted := Catalog.ofTexts_compactText isSound_delivered
  obtain ⟨⟨title, heading⟩, blankTitle, _⟩ := routeDocument_shows accepted hosted .en .privacy
  refine ⟨accepted, title, heading, fun blank => ?_⟩
  have isBlank := blankTitle.mpr ⟨by decide, blank⟩
  exact absurd isBlank (by decide)

/-- The texts of the site with a space for a label in the footer and nothing for one in the
menu. -/
def unlabelled : Catalog where
  content
    | .en =>
        { Content.english with
          navbar.menuItems := Content.english.navbar.menuItems.set 3 ⟨"", "/events"⟩
          footer.aboutUs.items := Content.english.footer.aboutUs.items.set 2 ⟨" ", "/privacy"⟩ }
    | locale => Catalog.delivered.content locale

theorem isSound_unlabelled (locale : Locale) :
    Content.IsSound locale (unlabelled.content locale) := by
  cases locale with
  | en => exact ⟨(isSound_delivered .en).texts, rfl⟩
  | zhCn => exact isSound_delivered .zhCn
  | zhHk => exact isSound_delivered .zhHk

/-- A catalog is accepted although one page of it shows a blank title and another one an
empty heading. -/
theorem routeDocument_shows_blank :
    Catalog.ofTexts (fun locale => (unlabelled.content locale).value.compactText) =
        .ok unlabelled ∧
      (titles (hosted.routeDocument (unlabelled.page .en) .privacy).render = [" "] ∧
        isBlank (hosted.routeMetadata (unlabelled.page .en) .privacy).title.toList = true) ∧
      headings (hosted.routeDocument (unlabelled.page .en) .events).render = [""] ∧
        isBlank (hosted.heading (unlabelled.page .en) .events).toList = true :=
  ⟨Catalog.ofTexts_compactText isSound_unlabelled, ⟨Document.titles_render _, by decide⟩,
    Document.headings_render _, by decide⟩

end PublicSite.Seo
