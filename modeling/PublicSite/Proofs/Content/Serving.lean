import PublicSite.Http.Service
import PublicSite.Proofs.Content.Loading
import PublicSite.Proofs.Json.Record
import PublicSite.Proofs.Json.Shape

/-!
# Content that is served

The content of a locale is served as JSON.  What is served has the members of the format
and no others, and it is read as the very content that was written, whatever its texts
hold and however many links it has.
-/

namespace PublicSite.Content

open PublicSite.Json PublicSite.Json.Record

/-! ## The format -/

/-- The shape of a link. -/
def linkItemShape : Shape :=
  .object [("label", .text), ("href", .text)]

/-- The shape of links under a title. -/
def linkGroupShape : Shape :=
  .object [("title", .text), ("items", .list linkItemShape)]

/-- The shape of the texts of a page. -/
def pageCopyShape : Shape :=
  .object [("title", .text), ("description", .text)]

/-- The shape of a bundle. -/
def shape : Shape :=
  .object [
    ("meta", .object [("title", .text), ("description", .text), ("direction", .text)]),
    ("navbar", .object [
      ("brand", .text), ("menuItems", .list linkItemShape), ("bookNow", linkItemShape)]),
    ("footer", .object [
      ("quickLinks", linkGroupShape), ("services", linkGroupShape), ("aboutUs", linkGroupShape),
      ("connectOn", linkGroupShape), ("copyright", .text)]),
    ("pages", .object [
      ("home", pageCopyShape), ("aboutUs", pageCopyShape), ("contactUs", pageCopyShape),
      ("events", pageCopyShape), ("trainingCourse", pageCopyShape), ("privacy", pageCopyShape),
      ("workshops", pageCopyShape), ("terms", pageCopyShape)]),
    ("seo", .object [("organizationDescription", .text), ("keywords", .list .text)]),
    ("noscript", .object [("message", .text)]),
    ("notFound", .object [("title", .text), ("description", .text), ("backHomeLabel", .text)])]

theorem fits_linkItem (item : LinkItem) : item.value.Fits linkItemShape := by
  simp [LinkItem.value, linkItemShape, Value.Fits, Value.MembersFit]

theorem fits_linkGroup (group : LinkGroup) : group.value.Fits linkGroupShape := by
  simp [LinkGroup.value, linkGroupShape, Value.Fits, Value.MembersFit,
    Value.itemsFit_map fits_linkItem]

theorem fits_pageCopy (page : PageCopy) : page.value.Fits pageCopyShape := by
  simp [PageCopy.value, pageCopyShape, Value.Fits, Value.MembersFit]

theorem fits_value (content : Content) : content.value.Fits shape := by
  have keywords : Value.ItemsFit .text (content.search.keywords.map .text) :=
    Value.itemsFit_map (fun _ => by simp [Value.Fits]) _
  simp [value, shape, Pages.named, Value.Fits, Value.MembersFit, fits_linkItem, fits_linkGroup,
    fits_pageCopy, Value.itemsFit_map fits_linkItem, keywords]

theorem isPlain_value (content : Content) : content.value.IsPlain depthLimit :=
  .of_fits content.fits_value (by decide)

/-! ## Reading what was written -/

section

variable {members : List (String × Value)} {name : String}

theorem finds_text {text : String} (distinct : (members.map Prod.fst).Nodup)
    (member : (name, .text text) ∈ members) : (textField name).Finds members text :=
  finds_required distinct member (Decoder.reads_text text)

end

theorem reads_linkItem (item : LinkItem) : linkItemRecord.decode.Reads item.value item := by
  refine reads_object (.seq (.map ?label LinkItem.mk) ?href)
  all_goals exact finds_text (by simp) (by simp)

theorem reads_linkItems (items : List LinkItem) :
    (Decoder.list linkItemRecord.decode).Reads (.array (items.map LinkItem.value)) items :=
  Decoder.reads_list reads_linkItem items

theorem reads_linkGroup (group : LinkGroup) : linkGroupRecord.decode.Reads group.value group := by
  refine reads_object (.seq (.map ?title LinkGroup.mk) ?items)
  case title => exact finds_text (by simp) (by simp)
  case items => exact finds_required (by simp) (by simp) (reads_linkItems group.items)

theorem reads_pageCopy (page : PageCopy) : pageCopyRecord.decode.Reads page.value page := by
  refine reads_object (.seq (.map ?title PageCopy.mk) ?description)
  all_goals exact finds_text (by simp) (by simp)

theorem reads_overview (overview : Overview) :
    overviewRecord.decode.Reads (.object [
      ("title", .text overview.title),
      ("description", .text overview.description),
      ("direction", .text overview.direction.code)]) overview := by
  refine reads_object (.seq (.seq (.map ?title Overview.mk) ?description) ?direction)
  case direction =>
    exact finds_required (by simp) (by simp)
      (Decoder.reads_choice (Direction.ofCode?_code overview.direction))
  all_goals exact finds_text (by simp) (by simp)

theorem reads_navbar (navbar : Navbar) :
    navbarRecord.decode.Reads (.object [
      ("brand", .text navbar.brand),
      ("menuItems", .array (navbar.menuItems.map LinkItem.value)),
      ("bookNow", navbar.bookNow.value)]) navbar := by
  refine reads_object (.seq (.seq (.map ?brand Navbar.mk) ?menuItems) ?bookNow)
  case brand => exact finds_text (by simp) (by simp)
  case menuItems => exact finds_required (by simp) (by simp) (reads_linkItems navbar.menuItems)
  case bookNow => exact finds_required (by simp) (by simp) (reads_linkItem navbar.bookNow)

theorem reads_footer (footer : Footer) :
    footerRecord.decode.Reads (.object [
      ("quickLinks", footer.quickLinks.value),
      ("services", footer.services.value),
      ("aboutUs", footer.aboutUs.value),
      ("connectOn", footer.connectOn.value),
      ("copyright", .text footer.copyright)]) footer := by
  refine reads_object (.seq (.seq (.seq (.seq (.map ?quickLinks Footer.mk) ?services) ?aboutUs)
    ?connectOn) ?copyright)
  case copyright => exact finds_text (by simp) (by simp)
  all_goals exact finds_required (by simp) (by simp) (reads_linkGroup _)

theorem reads_pages (pages : Pages) :
    pagesRecord.decode.Reads (.object (pages.named.map fun page => (page.1, page.2.value)))
      pages := by
  have finds {name : String} {page : PageCopy} (member : (name, page) ∈ pages.named) :
      (pageField name).Finds (pages.named.map fun page => (page.1, page.2.value)) page :=
    finds_required (by simp [Pages.named])
      (List.mem_map_of_mem (f := fun page : String × PageCopy => (page.1, page.2.value)) member)
      (reads_pageCopy page)
  refine reads_object (.seq (.seq (.seq (.seq (.seq (.seq (.seq (.map ?home Pages.mk) ?aboutUs)
    ?contactUs) ?events) ?trainingCourse) ?privacy) ?workshops) ?terms)
  all_goals exact finds (by simp [Pages.named])

theorem reads_search (search : Search) :
    searchRecord.decode.Reads (.object [
      ("organizationDescription", .text search.organizationDescription),
      ("keywords", .array (search.keywords.map .text))]) search := by
  refine reads_object (.seq (.map ?description Search.mk) ?keywords)
  case description => exact finds_text (by simp) (by simp)
  case keywords =>
    exact finds_required (by simp) (by simp)
      (Decoder.reads_list Decoder.reads_text search.keywords)

theorem reads_noscript (noscript : Noscript) :
    noscriptRecord.decode.Reads (.object [("message", .text noscript.message)]) noscript :=
  reads_object (.map (finds_text (by simp) (by simp)) Noscript.mk)

theorem reads_notFound (notFound : NotFound) :
    notFoundRecord.decode.Reads (.object [
      ("title", .text notFound.title),
      ("description", .text notFound.description),
      ("backHomeLabel", .text notFound.backHomeLabel)]) notFound := by
  refine reads_object (.seq (.seq (.map ?title NotFound.mk) ?description) ?backHomeLabel)
  all_goals exact finds_text (by simp) (by simp)

/-- The parts of a bundle are read as they were written. -/
theorem reads_value (content : Content) : record.decode.Reads content.value content := by
  refine reads_object (.seq (.seq (.seq (.seq (.seq (.seq (.map ?overview Content.mk) ?navbar)
    ?footer) ?pages) ?search) ?noscript) ?notFound)
  case overview => exact finds_required (by simp) (by simp) (reads_overview content.overview)
  case navbar => exact finds_required (by simp) (by simp) (reads_navbar content.navbar)
  case footer => exact finds_required (by simp) (by simp) (reads_footer content.footer)
  case pages => exact finds_required (by simp) (by simp) (reads_pages content.pages)
  case search => exact finds_required (by simp) (by simp) (reads_search content.search)
  case noscript => exact finds_required (by simp) (by simp) (reads_noscript content.noscript)
  case notFound => exact finds_required (by simp) (by simp) (reads_notFound content.notFound)

theorem parse_compactText (content : Content) :
    parse content.value.compactText = .ok content := by
  have reads : record.decode content.value.draft = .ok content := content.reads_value
  rw [parse, Decoder.ofText, Draft.read_compactText content.isPlain_value]
  simp only [reads]
  rfl

end PublicSite.Content

namespace PublicSite

/-- A catalog that pages can rely on loads from its own texts. -/
theorem Catalog.ofTexts_compactText {catalog : Catalog}
    (sound : ∀ locale, Content.IsSound locale (catalog.content locale)) :
    ofTexts (fun locale => (catalog.content locale).value.compactText) = .ok catalog :=
  ofTexts_of_loads (.loaded (fun locale => (catalog.content locale).parse_compactText) sound)

end PublicSite

namespace PublicSite.Http

open PublicSite.Json

theorem status_contentReply (locales : Locales) (locale : Locale) :
    (contentReply locales locale.code).status = 200 := by
  simp only [contentReply, Catalog.pageOf, Locale.ofCode?_code]
  rfl

theorem body_contentReply (locales : Locales) (locale : Locale) :
    (contentReply locales locale.code).body =
      (locales.catalog.content locale).value.compactText := by
  simp only [contentReply, Catalog.pageOf, Locale.ofCode?_code]
  rfl

/-- Content that is served is read as itself, and the members of what is served are those
of the format.  So a bundle that holds other members too is the same content when it is
written and read once more. -/
theorem parse_contentReply (locales : Locales) (locale : Locale) (text : String) :
    ((contentReply locales locale.code).status = 200 ∧
        (contentReply locales locale.code).body =
          (locales.catalog.content locale).value.compactText) ∧
      Content.parse (contentReply locales locale.code).body =
        .ok (locales.catalog.content locale) ∧
      (∃ value, Value.parse? (contentReply locales locale.code).body = some value ∧
        value.Fits Content.shape) ∧
      (Content.parse text >>= fun bundle => Content.parse bundle.value.compactText) =
        Content.parse text := by
  have written := body_contentReply locales locale
  refine ⟨⟨status_contentReply locales locale, written⟩, ?_, ?_, ?_⟩
  · rw [written, Content.parse_compactText]
  · rw [written]
    exact ⟨_, Value.parse?_compactText (Content.isPlain_value _), Content.fits_value _⟩
  · cases Content.parse text with
    | error fault => rfl
    | ok bundle =>
        simp only [bind, Except.bind]
        exact bundle.parse_compactText

end PublicSite.Http
