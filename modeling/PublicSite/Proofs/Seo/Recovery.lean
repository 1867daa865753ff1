import PublicSite.Proofs.Markup.Parts
import PublicSite.Proofs.Seo.Layout

/-!
# What is recovered from a document

A rendered document is read as the tags that are written down here, with every value of
an attribute and every text as the document holds it: the labels and the hrefs of its
links, its titles, its heading and its descriptions.  A schema stands in the body of a
script as it was written.  So two documents that agree in how many links, alternates and
schemas they have are read as the same tags, whatever they say.
-/

namespace PublicSite.Seo.Document

open PublicSite.Markup PublicSite.Markup.Part PublicSite.Markup.Node PublicSite.Json

variable (document : Document)

/-! ## The parts of a document -/

/-- A link: its label, and its href under the locale of the page. -/
def linkParts (item : Content.LinkItem) : List Part :=
  [opened "a" [("href", Path.localizeHrefText item.href document.page.locale)] item.label,
    closed "a"]

/-- An alternate: its language and its address. -/
def alternateParts (alternate : Alternate) : List Part :=
  [opened "link" [("rel", "alternate"), ("hreflang", alternate.language),
    ("href", absolute document.origin alternate.href)] ""]

/-- A schema: the body of a script, which holds no entities. -/
def schemaParts (schema : Value) : List Part :=
  [{ opened "script" [("type", "application/ld+json")] "" with body := scriptBody schema },
    closed "script"]

/-- The head: the title, the description, the rules for search engines and the addresses. -/
def headParts : List Part :=
  [opened "head" [] "",
    opened "meta" [("charset", "utf-8")] "",
    opened "meta" [("name", "viewport"), ("content", "width=device-width, initial-scale=1")] "",
    opened "title" [] document.metadata.title, closed "title",
    opened "meta" [("name", "description"), ("content", document.metadata.description)] "",
    opened "meta" [("name", "robots"), ("content", document.metadata.robots.text)] "",
    opened "link" [("rel", "canonical"),
      ("href", absolute document.origin document.metadata.canonical)] ""]
  ++ document.metadata.alternates.flatMap document.alternateParts
  ++ [opened "script" [("src", "/scripts/locale-document.js")] "", closed "script"]
  ++ document.schemas.flatMap schemaParts
  ++ [closed "head"]

/-- The navigation: the brand, the links of the menu, and the link to the booking page. -/
def navigationParts : List Part :=
  let navbar := document.page.content.navbar
  opened "nav" [] "" :: document.linkParts ⟨navbar.brand, "/"⟩
    ++ navbar.menuItems.flatMap document.linkParts
    ++ document.linkParts navbar.bookNow
    ++ [closed "nav"]

/-- A group of links in the footer: its title and its links. -/
def groupParts (group : Content.LinkGroup) : List Part :=
  [opened "section" [] "", opened "h2" [] group.title, closed "h2"]
  ++ group.items.flatMap document.linkParts
  ++ [closed "section"]

/-- The body: what a reader without scripts is told, the navigation, the heading with the
description, and the footer. -/
def bodyParts : List Part :=
  let content := document.page.content
  [opened "body" [] "", opened "noscript" [] "", opened "p" [] content.noscript.message,
    closed "p", closed "noscript", opened "header" [] ""]
  ++ document.navigationParts
  ++ [closed "header", opened "main" [] "", opened "h1" [] document.heading, closed "h1",
    opened "p" [] document.metadata.description, closed "p", closed "main",
    opened "footer" [] ""]
  ++ document.groupParts content.footer.quickLinks
  ++ document.groupParts content.footer.services
  ++ document.groupParts content.footer.aboutUs
  ++ document.groupParts content.footer.connectOn
  ++ [opened "p" [] content.footer.copyright, closed "p", closed "footer", closed "body"]

/-- All that is read of a document. -/
def parts : List Part :=
  [declared, opened "html" [("lang", document.page.locale.code),
    ("dir", document.page.direction.code)] ""]
  ++ document.headParts ++ document.bodyParts ++ [closed "html"]

/-! ## The tree gives these parts -/

theorem gives_link (item : Content.LinkItem) :
    (document.link item).Gives (document.linkParts item) :=
  gives_text "a" _ item.label

theorem gives_alternate (alternate : Alternate) :
    (document.alternate alternate).Gives (document.alternateParts alternate) :=
  gives_void "link" _

theorem gives_structuredData (schema : Value) :
    (structuredData schema).Gives (schemaParts schema) :=
  gives_script _ (scriptBody schema)

theorem gives_head : document.head.Gives document.headParts := by
  have named : GiveAll _ _ :=
    giveAll_cons (gives_void "meta" [("charset", "utf-8")]) <|
    giveAll_cons (gives_void "meta" [("name", "viewport"),
      ("content", "width=device-width, initial-scale=1")]) <|
    giveAll_cons (gives_text "title" [] document.metadata.title) <|
    giveAll_cons (gives_void "meta" [("name", "description"),
      ("content", document.metadata.description)]) <|
    giveAll_cons (gives_void "meta" [("name", "robots"),
      ("content", document.metadata.robots.text)]) <|
    giveAll_cons (gives_void "link" [("rel", "canonical"),
      ("href", absolute document.origin document.metadata.canonical)]) giveAll_nil
  have script : GiveAll _ _ :=
    giveAll_cons (gives_script [("src", Content.scriptPath)] []) giveAll_nil
  exact gives_element "head" [] <| giveAll_append (giveAll_append (giveAll_append named
    (giveAll_map document.gives_alternate _)) script) (giveAll_map gives_structuredData _)

theorem gives_navigation : document.navigation.Gives document.navigationParts :=
  gives_element "nav" [] <| giveAll_append
    (giveAll_cons (document.gives_link _) (giveAll_map document.gives_link _))
    (giveAll_cons (document.gives_link _) giveAll_nil)

theorem gives_linkGroup (group : Content.LinkGroup) :
    (document.linkGroup group).Gives (document.groupParts group) :=
  gives_element "section" [] <| giveAll_cons (gives_text "h2" [] group.title)
    (giveAll_map document.gives_link _)

theorem gives_body : document.body.Gives document.bodyParts := by
  let content := document.page.content
  have noscript := gives_element "noscript" [] <|
    giveAll_cons (gives_text "p" [] content.noscript.message) giveAll_nil
  have header := gives_element "header" [] <| giveAll_cons document.gives_navigation giveAll_nil
  have main := gives_element "main" [] <|
    giveAll_cons (gives_text "h1" [] document.heading) <|
    giveAll_cons (gives_text "p" [] document.metadata.description) giveAll_nil
  have footer := gives_element "footer" [] <|
    giveAll_append (giveAll_map document.gives_linkGroup content.footer.groups)
      (giveAll_cons (gives_text "p" [] content.footer.copyright) giveAll_nil)
  have body := gives_element "body" [] <| giveAll_cons noscript <| giveAll_cons header <|
    giveAll_cons main <| giveAll_cons footer giveAll_nil
  refine body.of_eq ?_
  simp [bodyParts, content, Content.Footer.groups]

theorem gives_tree : document.tree.Gives (opened "html" [("lang", document.page.locale.code),
    ("dir", document.page.direction.code)] "" :: (document.headParts ++ document.bodyParts)
      ++ [closed "html"]) := by
  have inside := giveAll_cons document.gives_head (giveAll_cons document.gives_body giveAll_nil)
  rw [List.append_nil] at inside
  exact gives_element "html" _ inside

theorem parts_tree : document.tree.parts = document.parts :=
  parts_of_gives document.gives_tree

/-- A rendered document is read as its parts. -/
theorem read?_render_eq_parts : read? document.render.toList = some document.parts := by
  rw [read?_render, parts_tree]

/-! ## Documents that say different things -/

/-- Two documents have as many links in the menu and in each group of the footer,
as many alternates and as many schemas. -/
structure SameCounts (first second : Document) : Prop where
  menu : first.page.content.navbar.menuItems.length =
    second.page.content.navbar.menuItems.length
  groups : (first.page.content.footer.groups.map fun group => group.items.length) =
    second.page.content.footer.groups.map fun group => group.items.length
  alternates : first.metadata.alternates.length = second.metadata.alternates.length
  schemas : first.schemas.length = second.schemas.length

/-- Two documents with the same counts are read as the same tags with the same
attributes, and each of them as the texts and the values that it holds. -/
theorem shapes_render_eq {first second : Document} (same : first.SameCounts second) :
    read? first.render.toList = some first.parts ∧
      read? second.render.toList = some second.parts ∧
      first.parts.map (fun part => part.tag.shape) =
        second.parts.map fun part => part.tag.shape := by
  refine ⟨first.read?_render_eq_parts, second.read?_render_eq_parts, ?_⟩
  rw [← parts_tree, ← parts_tree, map_shape_parts, map_shape_parts, same.menu, same.groups,
    same.alternates, same.schemas]

/-- A page whose brand and whose note on copyright try to end their elements. -/
def hostilePage : Page :=
  let page := Catalog.delivered.page .zhHk
  { page with content := { page.content with
      navbar := { page.content.navbar with brand := "</a><script>&lt;" }
      footer := { page.content.footer with copyright := "</p></footer>\"" } } }

/-- A document that tries to end the elements and the attributes that it is put into. -/
def hostile : Document where
  origin := "\"><script>"
  page := hostilePage
  metadata := Metadata.notFound .zhHk "</title><script>" "\"><b>&amp;</b>"
  heading := "</h1></main><p>"
  schemas := [.text "</script><script>"]

/-- A document in which nothing needs an escape. -/
def harmless : Document where
  origin := "https://www.evolvesprouts.com"
  page := Catalog.delivered.page .en
  metadata := Metadata.notFound .en "Not found" "There is no such page"
  heading := "Not found"
  schemas := [.null]

/-- Hostile texts change none of the tags and are recovered as they are. -/
theorem shapes_render_hostile :
    hostile.SameCounts harmless ∧ ∃ parts, read? hostile.render.toList = some parts ∧
      opened "title" [] "</title><script>" ∈ parts ∧
      opened "meta" [("name", "description"), ("content", "\"><b>&amp;</b>")] "" ∈ parts ∧
      opened "link" [("rel", "canonical"), ("href", "\"><script>/zh-HK")] "" ∈ parts ∧
      opened "a" [("href", "/zh-HK")] "</a><script>&lt;" ∈ parts ∧
      opened "h1" [] "</h1></main><p>" ∈ parts ∧
      opened "p" [] "\"><b>&amp;</b>" ∈ parts ∧
      opened "p" [] "</p></footer>\"" ∈ parts ∧
      read? harmless.render.toList = some harmless.parts ∧
      parts.map (fun part => part.tag.shape) =
        harmless.parts.map fun part => part.tag.shape := by
  have same : hostile.SameCounts harmless := ⟨rfl, rfl, rfl, rfl⟩
  obtain ⟨recovered, harmlessRecovered, shapes⟩ := shapes_render_eq same
  refine ⟨same, hostile.parts, recovered, ?_, ?_, ?_, ?_, ?_, ?_, ?_, harmlessRecovered, shapes⟩
  all_goals decide

end PublicSite.Seo.Document
