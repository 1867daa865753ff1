import PublicSite.Proofs.Seo.Guarding
import PublicSite.Seo.Document

/-!
# The layout of documents

What a document says never changes how it is built.  Its tags and the names of
their attributes follow from four counts alone: how many links the menu and each
group of the footer have, how many alternates and how many schemas there are.
The body of a script goes on up to the sign that would end it, which no schema can
hold.
-/

namespace PublicSite.Seo

open PublicSite.Markup PublicSite.Json

/-! ## Documents can be read -/

namespace Document

open PublicSite.Markup.Node

variable (document : Document)

theorem isReadable_link (item : Content.LinkItem) : (document.link item).IsReadable :=
  ⟨rfl, trivial, trivial⟩

theorem isReadable_alternate (alternate : Alternate) :
    (document.alternate alternate).IsReadable :=
  show isOrdinary "link" _ = true from rfl

theorem isReadable_structuredData (value : Value) : (structuredData value).IsReadable :=
  ⟨rfl, scriptEnd_not_infix_guardClosing value.print⟩

theorem isReadable_head : document.head.IsReadable := by
  have script : Node.AreReadable [.script [("src", Content.scriptPath)] []] :=
    ⟨⟨rfl, by decide⟩, trivial⟩
  refine ⟨rfl, areReadable_append (areReadable_append (areReadable_append ?_ ?_) script) ?_⟩
  · exact ⟨rfl, rfl, ⟨rfl, trivial, trivial⟩, rfl, rfl, rfl, trivial⟩
  · exact areReadable_map document.isReadable_alternate _
  · exact areReadable_map isReadable_structuredData _

theorem isReadable_navigation : document.navigation.IsReadable :=
  ⟨rfl, areReadable_append
    ⟨document.isReadable_link _, areReadable_map document.isReadable_link _⟩
    ⟨document.isReadable_link _, trivial⟩⟩

theorem isReadable_linkGroup (group : Content.LinkGroup) :
    (document.linkGroup group).IsReadable :=
  ⟨rfl, ⟨rfl, trivial, trivial⟩, areReadable_map document.isReadable_link _⟩

theorem isReadable_body : document.body.IsReadable := by
  have footer : Node.AreReadable (document.page.content.footer.groups.map document.linkGroup
      ++ [.element "p" [] [.text document.page.content.footer.copyright]]) :=
    areReadable_append (areReadable_map document.isReadable_linkGroup _)
      ⟨⟨rfl, trivial, trivial⟩, trivial⟩
  exact ⟨rfl, ⟨rfl, ⟨rfl, trivial, trivial⟩, trivial⟩,
    ⟨rfl, document.isReadable_navigation, trivial⟩,
    ⟨rfl, ⟨rfl, trivial, trivial⟩, ⟨rfl, trivial, trivial⟩, trivial⟩,
    ⟨rfl, footer⟩, trivial⟩

theorem isReadable_tree : document.tree.IsReadable :=
  ⟨rfl, document.isReadable_head, document.isReadable_body, trivial⟩

/-- A rendered document is read as its tree. -/
theorem read?_render : read? document.render.toList = some document.tree.parts :=
  Node.read?_renderDocument document.isReadable_tree

end Document

/-! ## The layout -/

/-- An opening tag without the values of its attributes. -/
def bareTag (name : String) (names : List String) : Tag :=
  .opening name.toList (names.map fun other => (other.toList, []))

/-- The tags of an element without attributes, around others. -/
def around (name : String) (inside : List Tag) : List Tag :=
  bareTag name [] :: (inside ++ [.closing name.toList])

/-- The same tags several times. -/
def repeated (count : Nat) (tags : List Tag) : List Tag :=
  (List.replicate count tags).flatten

/-- The tags of a link. -/
def linkTags : List Tag :=
  [bareTag "a" ["href"], .closing "a".toList]

/-- The tags of a script with an attribute. -/
def scriptTags (name : String) : List Tag :=
  [bareTag "script" [name], .closing Reader.scriptName]

/-- The tags of a head. -/
def headTags (alternates schemas : Nat) : List Tag :=
  around "head" (
    bareTag "meta" ["charset"] :: bareTag "meta" ["name", "content"] :: around "title" []
    ++ [bareTag "meta" ["name", "content"], bareTag "meta" ["name", "content"],
      bareTag "link" ["rel", "href"]]
    ++ repeated alternates [bareTag "link" ["rel", "hreflang", "href"]]
    ++ scriptTags "src"
    ++ repeated schemas (scriptTags "type"))

/-- The tags of a group of links in the footer. -/
def groupTags (links : Nat) : List Tag :=
  around "section" (around "h2" [] ++ repeated links linkTags)

/-- The tags of a body. -/
def bodyTags (menu : Nat) (groups : List Nat) : List Tag :=
  around "body" (
    around "noscript" (around "p" []) ++ (
    around "header" (around "nav" (linkTags ++ repeated menu linkTags ++ linkTags)) ++ (
    around "main" (around "h1" [] ++ around "p" []) ++
    around "footer" (groups.flatMap groupTags ++ around "p" []))))

/-- The tags of a document with the names of their attributes. -/
def layout (menu : Nat) (groups : List Nat) (alternates schemas : Nat) : List Tag :=
  .declaration "DOCTYPE html".toList :: bareTag "html" ["lang", "dir"]
    :: (headTags alternates schemas ++ bodyTags menu groups ++ [.closing "html".toList])

/-- The tags of parts that are all built alike. -/
theorem map_shape_tagsOfAll_map {α : Type} {node : α → Node} {shapes : List Tag}
    (alike : ∀ item, (node item).tags.map Tag.shape = shapes) (items : List α) :
    (Node.tagsOfAll (items.map node)).map Tag.shape = repeated items.length shapes := by
  induction items with
  | nil => rfl
  | cons item rest ih =>
      rw [List.map_cons, Node.tagsOfAll, List.map_append, alike, ih]
      rfl

namespace Document

open PublicSite.Markup.Node

variable (document : Document)

theorem map_shape_link (item : Content.LinkItem) :
    (document.link item).tags.map Tag.shape = linkTags :=
  rfl

theorem map_shape_alternate (alternate : Alternate) :
    (document.alternate alternate).tags.map Tag.shape =
      [bareTag "link" ["rel", "hreflang", "href"]] :=
  rfl

theorem map_shape_structuredData (value : Value) :
    (structuredData value).tags.map Tag.shape = scriptTags "type" :=
  rfl

theorem map_shape_head :
    document.head.tags.map Tag.shape =
      headTags document.metadata.alternates.length document.schemas.length := by
  simp only [head, tags, tagsOfAll_append, List.map_cons, List.map_append,
    map_shape_tagsOfAll_map document.map_shape_alternate,
    map_shape_tagsOfAll_map map_shape_structuredData]
  rfl

theorem map_shape_navigation :
    document.navigation.tags.map Tag.shape =
      around "nav" (linkTags
        ++ repeated document.page.content.navbar.menuItems.length linkTags ++ linkTags) := by
  simp only [navigation, tags, tagsOfAll, tagsOfAll_append, List.map_cons, List.map_append,
    map_shape_tagsOfAll_map document.map_shape_link]
  rfl

theorem map_shape_linkGroup (group : Content.LinkGroup) :
    (document.linkGroup group).tags.map Tag.shape = groupTags group.items.length := by
  simp only [linkGroup, tags, tagsOfAll, List.map_cons, List.map_append,
    map_shape_tagsOfAll_map document.map_shape_link]
  rfl

theorem map_shape_linkGroups (groups : List Content.LinkGroup) :
    (tagsOfAll (groups.map document.linkGroup)).map Tag.shape =
      (groups.map fun group => group.items.length).flatMap groupTags := by
  rw [tagsOfAll_map, List.map_flatMap, List.flatMap_map]
  exact List.flatMap_congr fun group _ => document.map_shape_linkGroup group

theorem map_shape_body :
    document.body.tags.map Tag.shape =
      bodyTags document.page.content.navbar.menuItems.length
        (document.page.content.footer.groups.map fun group => group.items.length) := by
  simp only [body, tags, tagsOfAll, tagsOfAll_append, List.append_nil, List.map_cons,
    List.map_append, document.map_shape_navigation, document.map_shape_linkGroups]
  rfl

/-- The tags of a document follow from its counts. -/
theorem map_shape_parts :
    document.tree.parts.map (fun part => part.tag.shape) =
      layout document.page.content.navbar.menuItems.length
        (document.page.content.footer.groups.map fun group => group.items.length)
        document.metadata.alternates.length document.schemas.length := by
  have shapes : document.tree.parts.map (fun part => part.tag.shape) =
      (document.tree.parts.map Part.tag).map Tag.shape := by
    rw [List.map_map]
    rfl
  rw [shapes, Node.map_tag_parts]
  simp only [tree, tags, tagsOfAll, List.append_nil, List.map_cons, List.map_append,
    document.map_shape_head, document.map_shape_body]
  rfl

end Document

end PublicSite.Seo
