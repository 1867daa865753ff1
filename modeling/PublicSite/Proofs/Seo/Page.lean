import PublicSite.Proofs.Seo.Layout

/-!
# What a page declares

The language, the rules for search engines, the canonical link and the alternates
of a page, read off its text.  Of a rendered document they are exactly what its
metadata holds, each once, since nothing in the body is mistaken for them.
-/

namespace PublicSite.Markup

namespace Tag

/-- The value of an attribute. -/
def value? (name : String) : Tag → Option (List Char)
  | .opening _ attributes => (attributes.find? fun pair => pair.1 == name.toList).map Prod.snd
  | _ => none

end Tag

/-- The tags that are read in a text. -/
def tagsOf (text : String) : List Tag :=
  ((read? text.toList).getD []).map Part.tag

/-- The values of an attribute in the tags that are selected. -/
def valuesOf (selects : Tag → Bool) (name : String) (tags : List Tag) : List (List Char) :=
  (tags.filter selects).filterMap (Tag.value? name)

theorem valuesOf_append (selects : Tag → Bool) (name : String) (front back : List Tag) :
    valuesOf selects name (front ++ back) =
      valuesOf selects name front ++ valuesOf selects name back := by
  simp [valuesOf]

theorem valuesOf_eq_nil {selects : Tag → Bool} {tags : List Tag}
    (none : ∀ tag ∈ tags, selects tag = false) (name : String) :
    valuesOf selects name tags = [] := by
  have nothing : tags.filter selects = [] :=
    List.filter_eq_nil_iff.mpr fun tag member => by simp [none tag member]
  rw [valuesOf, nothing, List.filterMap_nil]

theorem valuesOf_flatMap {α : Type} (selects : Tag → Bool) (name : String) (tags : α → List Tag)
    (items : List α) :
    valuesOf selects name (items.flatMap tags) =
      items.flatMap fun item => valuesOf selects name (tags item) := by
  simp [valuesOf, List.filter_flatMap, List.filterMap_flatMap]

end PublicSite.Markup

namespace PublicSite.Seo

open PublicSite.Markup

/-! ## Reading a page -/

/-- A link that stands in a relation to the page. -/
def isLink (relation : String) (tag : Tag) : Bool :=
  tag.isOpening "link" && tag.value? "rel" == some relation.toList

/-- A named datum of the page. -/
def isDatum (name : String) (tag : Tag) : Bool :=
  tag.isOpening "meta" && tag.value? "name" == some name.toList

/-- The languages that a page declares. -/
def languages (page : String) : List String :=
  (valuesOf (Tag.isOpening "html") "lang" (tagsOf page)).map String.ofList

/-- The canonical links of a page. -/
def canonicalLinks (page : String) : List String :=
  (valuesOf (isLink "canonical") "href" (tagsOf page)).map String.ofList

/-- The links of a page to its alternates. -/
def alternateLinks (page : String) : List String :=
  (valuesOf (isLink "alternate") "href" (tagsOf page)).map String.ofList

/-- The rules of a page for search engines. -/
def robotsRules (page : String) : List String :=
  (valuesOf (isDatum "robots") "content" (tagsOf page)).map String.ofList

/-! ## Rendered documents -/

/-- A tag that declares something of the whole page. -/
def isDeclaring (tag : Tag) : Bool :=
  tag.isOpening "html" || tag.isOpening "meta" || tag.isOpening "link"

theorem isDeclaring_shape (tag : Tag) : isDeclaring tag.shape = isDeclaring tag := by
  cases tag <;> rfl

/-- What selects only declaring tags finds nothing among others. -/
theorem valuesOf_of_not_isDeclaring {selects : Tag → Bool} {tags : List Tag}
    (declaring : ∀ tag, selects tag = true → isDeclaring tag = true)
    (others : ∀ tag ∈ tags, isDeclaring tag = false) (name : String) :
    valuesOf selects name tags = [] := by
  refine valuesOf_eq_nil (fun tag member => ?_) name
  rw [← Bool.not_eq_true]
  intro selected
  have isOther := others tag member
  rw [declaring tag selected] at isOther
  exact Bool.false_ne_true isOther.symm

/-! ### The body -/

theorem not_isDeclaring_around {name : String} {inside : List Tag}
    (other : isDeclaring (bareTag name []) = false)
    (insideOther : ∀ tag ∈ inside, isDeclaring tag = false) :
    ∀ tag ∈ around name inside, isDeclaring tag = false := by
  intro tag member
  rcases List.mem_cons.mp member with rfl | later
  · exact other
  · rcases List.mem_append.mp later with within | last
    · exact insideOther tag within
    · rw [List.mem_singleton.mp last]
      rfl

theorem not_isDeclaring_repeated (count : Nat) :
    ∀ tag ∈ repeated count linkTags, isDeclaring tag = false := by
  intro tag member
  obtain ⟨tags, isCopy, within⟩ := List.mem_flatten.mp member
  rw [List.eq_of_mem_replicate isCopy] at within
  have links : ∀ tag ∈ linkTags, isDeclaring tag = false := by decide
  exact links tag within

theorem not_isDeclaring_bodyTags (menu : Nat) (groups : List Nat) :
    ∀ tag ∈ bodyTags menu groups, isDeclaring tag = false := by
  have links : ∀ tag ∈ linkTags, isDeclaring tag = false := by decide
  have plain : ∀ tag ∈ around "p" [], isDeclaring tag = false := by decide
  have heading : ∀ tag ∈ around "h2" [], isDeclaring tag = false := by decide
  have group : ∀ count, ∀ tag ∈ groupTags count, isDeclaring tag = false := fun count =>
    not_isDeclaring_around (by decide)
      (List.forall_mem_append.mpr ⟨heading, not_isDeclaring_repeated count⟩)
  refine not_isDeclaring_around (by decide) ?_
  simp only [List.forall_mem_append]
  refine ⟨not_isDeclaring_around (by decide) plain, ?_, by decide, ?_⟩
  · refine not_isDeclaring_around (by decide) (not_isDeclaring_around (by decide) ?_)
    simp only [List.forall_mem_append]
    exact ⟨⟨links, not_isDeclaring_repeated menu⟩, links⟩
  · refine not_isDeclaring_around (by decide) ?_
    simp only [List.forall_mem_append, List.forall_mem_flatMap]
    exact ⟨fun count _ => group count, plain⟩

namespace Document

open PublicSite.Markup.Node

variable (document : Document)

theorem not_isDeclaring_body : ∀ tag ∈ document.body.tags, isDeclaring tag = false := by
  intro tag member
  rw [← isDeclaring_shape]
  have shapeMember : tag.shape ∈ document.body.tags.map Tag.shape := List.mem_map_of_mem member
  rw [document.map_shape_body] at shapeMember
  exact not_isDeclaring_bodyTags _ _ tag.shape shapeMember

/-! ### The whole document -/

/-- The tags up to the alternates. -/
def frontTags : List Tag :=
  [.declaration "DOCTYPE html".toList,
    .ofNode "html" [("lang", document.page.locale.code), ("dir", document.page.direction.code)],
    .ofNode "head" [],
    .ofNode "meta" [("charset", "utf-8")],
    .ofNode "meta" [("name", "viewport"), ("content", "width=device-width, initial-scale=1")],
    .ofNode "title" [], .closing "title".toList,
    .ofNode "meta" [("name", "description"), ("content", document.metadata.description)],
    .ofNode "meta" [("name", "robots"), ("content", document.metadata.robots.text)],
    .ofNode "link" [("rel", "canonical"),
      ("href", absolute document.origin document.metadata.canonical)]]

/-- The tags behind the alternates. -/
def backTags : List Tag :=
  .ofNode "script" [("src", Content.scriptPath)] :: .closing Reader.scriptName
    :: ((document.schemas.flatMap fun value => (structuredData value).tags)
      ++ .closing "head".toList :: (document.body.tags ++ [.closing "html".toList]))

theorem tagsOf_render :
    tagsOf document.render = document.frontTags
      ++ (document.metadata.alternates.flatMap fun alternate =>
        (document.alternate alternate).tags)
      ++ document.backTags := by
  rw [tagsOf, document.read?_render]
  simp only [Option.getD_some]
  rw [map_tag_parts]
  simp [tree, head, tags, tagsOfAll, tagsOfAll_append, tagsOfAll_map, frontTags, backTags]

theorem not_isDeclaring_backTags : ∀ tag ∈ document.backTags, isDeclaring tag = false := by
  have schemas : ∀ tag ∈ document.schemas.flatMap fun value => (structuredData value).tags,
      isDeclaring tag = false := by
    refine List.forall_mem_flatMap.mpr fun value _ => ?_
    exact List.forall_mem_cons.mpr ⟨rfl, List.forall_mem_cons.mpr ⟨rfl, List.forall_mem_nil _⟩⟩
  simp only [backTags, List.forall_mem_cons, List.forall_mem_append]
  exact ⟨rfl, rfl, schemas, rfl, document.not_isDeclaring_body, rfl, List.forall_mem_nil _⟩

/-- What selects only declaring tags finds nothing behind the alternates. -/
theorem valuesOf_tagsOf_render {selects : Tag → Bool}
    (declaring : ∀ tag, selects tag = true → isDeclaring tag = true) (name : String) :
    valuesOf selects name (tagsOf document.render) =
      valuesOf selects name document.frontTags ++
        document.metadata.alternates.flatMap fun alternate =>
          valuesOf selects name (document.alternate alternate).tags := by
  have back : valuesOf selects name document.backTags = [] :=
    valuesOf_of_not_isDeclaring declaring document.not_isDeclaring_backTags name
  rw [tagsOf_render, valuesOf_append, valuesOf_append, valuesOf_flatMap, back, List.append_nil]

/-- If it passes over the alternates, it finds nothing behind the front. -/
theorem valuesOf_tagsOf_render_of_front {selects : Tag → Bool} {name : String}
    (declaring : ∀ tag, selects tag = true → isDeclaring tag = true)
    (passes : ∀ alternate, valuesOf selects name (document.alternate alternate).tags = []) :
    valuesOf selects name (tagsOf document.render) =
      valuesOf selects name document.frontTags := by
  rw [document.valuesOf_tagsOf_render declaring,
    List.flatMap_eq_nil_iff.mpr fun alternate _ => passes alternate, List.append_nil]

theorem isDeclaring_of_isOpening_html (tag : Tag) (isRoot : tag.isOpening "html" = true) :
    isDeclaring tag = true := by
  rw [isDeclaring, isRoot, Bool.true_or, Bool.true_or]

theorem isDeclaring_of_isDatum (name : String) (tag : Tag) (isDatum : isDatum name tag = true) :
    isDeclaring tag = true := by
  rw [isDeclaring, (Bool.and_eq_true_iff.mp isDatum).1, Bool.or_true, Bool.true_or]

theorem isDeclaring_of_isLink (relation : String) (tag : Tag)
    (isLink : isLink relation tag = true) : isDeclaring tag = true := by
  rw [isDeclaring, (Bool.and_eq_true_iff.mp isLink).1, Bool.or_true]

theorem languages_render : languages document.render = [document.page.locale.code] := by
  have front : valuesOf (Tag.isOpening "html") "lang" document.frontTags =
      [document.page.locale.code.toList] := rfl
  rw [languages, document.valuesOf_tagsOf_render_of_front isDeclaring_of_isOpening_html
    fun _ => rfl, front, List.map_singleton, String.ofList_toList]

theorem robotsRules_render :
    robotsRules document.render = [document.metadata.robots.text] := by
  have front : valuesOf (isDatum "robots") "content" document.frontTags =
      [document.metadata.robots.text.toList] := rfl
  rw [robotsRules, document.valuesOf_tagsOf_render_of_front (isDeclaring_of_isDatum _)
    fun _ => rfl, front, List.map_singleton, String.ofList_toList]

theorem canonicalLinks_render :
    canonicalLinks document.render =
      [absolute document.origin document.metadata.canonical] := by
  have front : valuesOf (isLink "canonical") "href" document.frontTags =
      [(absolute document.origin document.metadata.canonical).toList] := rfl
  rw [canonicalLinks, document.valuesOf_tagsOf_render_of_front (isDeclaring_of_isLink _)
    fun _ => rfl, front, List.map_singleton, String.ofList_toList]

theorem alternateLinks_render :
    alternateLinks document.render = document.metadata.alternates.map fun alternate =>
      absolute document.origin alternate.href := by
  have front : valuesOf (isLink "alternate") "href" document.frontTags = [] := rfl
  have each : ∀ alternate, valuesOf (isLink "alternate") "href"
      (document.alternate alternate).tags =
        [(absolute document.origin alternate.href).toList] := fun _ => rfl
  rw [alternateLinks, document.valuesOf_tagsOf_render (isDeclaring_of_isLink _), front,
    List.nil_append, List.map_flatMap, List.map_eq_flatMap]
  simp [each]

end Document

end PublicSite.Seo
