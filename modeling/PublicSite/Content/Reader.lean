import PublicSite.Content.Basic
import PublicSite.Json.Record

/-!
# Content as JSON

How content is read from JSON and written to it.  A bundle is read by the names
of its members, which are all required; members with other names are ignored.
What is written has the members in the order of their declaration.
-/

namespace PublicSite.Content

open PublicSite.Json PublicSite.Json.Record

/-! ## Reading -/

/-- A text that must be given. -/
def textField (name : String) : Record String :=
  required name Decoder.text

/-- The direction of a text by its code. -/
def directionDecoder : Decoder Direction :=
  Decoder.choice Decoder.nullOnly Direction.ofCode?

/-- The site as a whole. -/
def overviewRecord : Record Overview :=
  Overview.mk <$> textField "title" <*> textField "description"
    <*> required "direction" directionDecoder

/-- A link. -/
def linkItemRecord : Record LinkItem :=
  LinkItem.mk <$> textField "label" <*> textField "href"

/-- Links under a title. -/
def linkGroupRecord : Record LinkGroup :=
  LinkGroup.mk <$> textField "title" <*> required "items" (Decoder.list linkItemRecord.decode)

/-- The navigation. -/
def navbarRecord : Record Navbar :=
  Navbar.mk <$> textField "brand" <*> required "menuItems" (Decoder.list linkItemRecord.decode)
    <*> required "bookNow" linkItemRecord.decode

/-- The footer. -/
def footerRecord : Record Footer :=
  Footer.mk <$> required "quickLinks" linkGroupRecord.decode
    <*> required "services" linkGroupRecord.decode
    <*> required "aboutUs" linkGroupRecord.decode
    <*> required "connectOn" linkGroupRecord.decode <*> textField "copyright"

/-- The texts of a page. -/
def pageCopyRecord : Record PageCopy :=
  PageCopy.mk <$> textField "title" <*> textField "description"

/-- The texts of a page that must be given. -/
def pageField (name : String) : Record PageCopy :=
  required name pageCopyRecord.decode

/-- The texts of the pages. -/
def pagesRecord : Record Pages :=
  Pages.mk <$> pageField "home" <*> pageField "aboutUs" <*> pageField "contactUs"
    <*> pageField "events" <*> pageField "trainingCourse" <*> pageField "privacy"
    <*> pageField "workshops" <*> pageField "terms"

/-- The texts for search engines. -/
def searchRecord : Record Search :=
  Search.mk <$> textField "organizationDescription"
    <*> required "keywords" (Decoder.list Decoder.text)

/-- What a reader without scripts is told. -/
def noscriptRecord : Record Noscript :=
  Noscript.mk <$> textField "message"

/-- The page for what does not exist. -/
def notFoundRecord : Record NotFound :=
  NotFound.mk <$> textField "title" <*> textField "description" <*> textField "backHomeLabel"

/-- A bundle. -/
def record : Record Content :=
  Content.mk <$> required "meta" overviewRecord.decode <*> required "navbar" navbarRecord.decode
    <*> required "footer" footerRecord.decode <*> required "pages" pagesRecord.decode
    <*> required "seo" searchRecord.decode <*> required "noscript" noscriptRecord.decode
    <*> required "notFound" notFoundRecord.decode

/-- Read the text of a bundle. -/
def parse (text : String) : Except Fault Content :=
  Decoder.ofText record.decode text

/-! ## Writing -/

/-- A link, as a value. -/
def LinkItem.value (item : LinkItem) : Value :=
  .object [("label", .text item.label), ("href", .text item.href)]

/-- Links under a title, as a value. -/
def LinkGroup.value (group : LinkGroup) : Value :=
  .object [("title", .text group.title), ("items", .array (group.items.map LinkItem.value))]

/-- The texts of a page, as a value. -/
def PageCopy.value (page : PageCopy) : Value :=
  .object [("title", .text page.title), ("description", .text page.description)]

/-- A bundle, as a value. -/
def value (content : Content) : Value :=
  .object [
    ("meta", .object [
      ("title", .text content.overview.title),
      ("description", .text content.overview.description),
      ("direction", .text content.overview.direction.code)]),
    ("navbar", .object [
      ("brand", .text content.navbar.brand),
      ("menuItems", .array (content.navbar.menuItems.map LinkItem.value)),
      ("bookNow", content.navbar.bookNow.value)]),
    ("footer", .object [
      ("quickLinks", content.footer.quickLinks.value),
      ("services", content.footer.services.value),
      ("aboutUs", content.footer.aboutUs.value),
      ("connectOn", content.footer.connectOn.value),
      ("copyright", .text content.footer.copyright)]),
    ("pages", .object (content.pages.named.map fun page => (page.1, page.2.value))),
    ("seo", .object [
      ("organizationDescription", .text content.search.organizationDescription),
      ("keywords", .array (content.search.keywords.map .text))]),
    ("noscript", .object [("message", .text content.noscript.message)]),
    ("notFound", .object [
      ("title", .text content.notFound.title),
      ("description", .text content.notFound.description),
      ("backHomeLabel", .text content.notFound.backHomeLabel)])]

end PublicSite.Content
