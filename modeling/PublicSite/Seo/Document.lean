import PublicSite.Content.Catalog
import PublicSite.Content.Script
import PublicSite.Markup.Tree
import PublicSite.Seo.Schema

/-!
# Documents

The document that a page is rendered to.  Its head holds the metadata, the script
on locales and the structured data; its body holds the navigation, a heading with
a description, and the footer.  Every href of the content is put under the locale
of the page.
-/

namespace PublicSite.Seo

open PublicSite.Json PublicSite.Markup

/-- Everything that goes into one document. -/
structure Document where
  origin : String
  page : Page
  metadata : Metadata
  heading : String
  schemas : List Value

namespace Document

/-- A link under the locale of the page. -/
def link (document : Document) (item : Content.LinkItem) : Node :=
  .element "a" [("href", Path.localizeHrefText item.href document.page.locale)]
    [.text item.label]

/-- The path of the page in another language. -/
def alternate (document : Document) (alternate : Alternate) : Node :=
  .void "link" [("rel", "alternate"), ("hreflang", alternate.language),
    ("href", absolute document.origin alternate.href)]

/-- The structured data. -/
def structuredData (value : Value) : Node :=
  .script [("type", "application/ld+json")] (scriptBody value)

/-- The head. -/
def head (document : Document) : Node :=
  let metadata := document.metadata
  .element "head" [] (
    [.void "meta" [("charset", "utf-8")],
      .void "meta" [("name", "viewport"), ("content", "width=device-width, initial-scale=1")],
      .element "title" [] [.text metadata.title],
      .void "meta" [("name", "description"), ("content", metadata.description)],
      .void "meta" [("name", "robots"), ("content", metadata.robots.text)],
      .void "link" [("rel", "canonical"),
        ("href", absolute document.origin metadata.canonical)]]
    ++ metadata.alternates.map document.alternate
    ++ [.script [("src", Content.scriptPath)] []]
    ++ document.schemas.map structuredData)

/-- The navigation: the brand, the menu, and the link to the booking page. -/
def navigation (document : Document) : Node :=
  let navbar := document.page.content.navbar
  .element "nav" [] (
    document.link ⟨navbar.brand, "/"⟩
      :: navbar.menuItems.map document.link ++ [document.link navbar.bookNow])

/-- A group of links in the footer. -/
def linkGroup (document : Document) (group : Content.LinkGroup) : Node :=
  .element "section" [] (.element "h2" [] [.text group.title] :: group.items.map document.link)

/-- The body. -/
def body (document : Document) : Node :=
  let content := document.page.content
  .element "body" [] [
    .element "noscript" [] [.element "p" [] [.text content.noscript.message]],
    .element "header" [] [document.navigation],
    .element "main" [] [
      .element "h1" [] [.text document.heading],
      .element "p" [] [.text document.metadata.description]],
    .element "footer" [] (
      content.footer.groups.map document.linkGroup
        ++ [.element "p" [] [.text content.footer.copyright]])]

/-- The document as a tree. -/
def tree (document : Document) : Node :=
  .element "html" [("lang", document.page.locale.code), ("dir", document.page.direction.code)]
    [document.head, document.body]

/-- The text of the document. -/
def render (document : Document) : String :=
  renderDocument document.tree

end Document

end PublicSite.Seo
