import PublicSite.Proofs.Markup.Rendering

/-!
# Texts by their tags

What a reader shows for an element is the text between its opening tag and the next
tag.  Of a rendered tree these texts are found in the tree itself: each is the text
that the element with that name begins with.
-/

namespace PublicSite.Markup

/-- The texts behind the opening tags with a name, of parts whose last one comes first. -/
def textsBehind (name : String) (parts : List Part) : List (List Char) :=
  (parts.reverse.filter fun part => part.tag.isOpening name).map Part.text

/-- The texts of the elements with a name, as they are read. -/
def textsOf (name page : String) : List String :=
  (textsBehind name ((read? page.toList).getD []).reverse).map String.ofList

namespace Node

/-- The text that a part of a document begins with, with the text behind it. -/
def leading (behind : List Char) : Node → List Char
  | .text value => value.toList ++ behind
  | .void _ _ | .element _ _ _ | .script _ _ => []

/-- The text that several parts of a document begin with. -/
def leadingOfAll : List Node → List Char
  | [] => []
  | node :: rest => node.leading (leadingOfAll rest)

mutual

/-- The text that each element with a name begins with.  Behind an element without
content stands the text that follows it. -/
def texts (name : String) (behind : List Char) : Node → List (List Char)
  | .text _ => []
  | .void tag _ => if tag = name then [behind] else []
  | .element tag _ children =>
      (if tag = name then [leadingOfAll children] else []) ++ textsOfAll name children
  | .script _ _ => if "script" = name then [[]] else []

/-- `texts` of several parts of a document. -/
def textsOfAll (name : String) : List Node → List (List Char)
  | [] => []
  | node :: rest => node.texts name (leadingOfAll rest) ++ textsOfAll name rest

end

variable {name : String}

/-! ### Parts without such elements -/

/-- Nothing in the parts has the name, and they do not begin with a text. -/
structure AreSilent (name : String) (nodes : List Node) : Prop where
  texts : textsOfAll name nodes = []
  leading : leadingOfAll nodes = []

theorem areSilent_map {α : Type} {node : α → Node}
    (texts : ∀ item behind, (node item).texts name behind = [])
    (leading : ∀ item behind, (node item).leading behind = []) (items : List α) :
    AreSilent name (items.map node) := by
  induction items with
  | nil => exact ⟨rfl, rfl⟩
  | cons item rest ih =>
      exact ⟨by rw [List.map_cons, textsOfAll, texts, ih.texts, List.append_nil],
        by rw [List.map_cons, leadingOfAll, leading]⟩

/-- Silent parts at the end add nothing. -/
theorem AreSilent.textsOfAll_append {back : List Node} (silent : AreSilent name back)
    (front : List Node) :
    textsOfAll name (front ++ back) = textsOfAll name front := by
  have leads : ∀ nodes : List Node, leadingOfAll (nodes ++ back) = leadingOfAll nodes := by
    intro nodes
    induction nodes with
    | nil => exact silent.leading
    | cons node rest ih => rw [List.cons_append, leadingOfAll, ih, leadingOfAll]
  induction front with
  | nil => exact silent.texts
  | cons node rest ih => rw [List.cons_append, textsOfAll, leads, ih, textsOfAll]

/-! ### What is read -/

theorem textsBehind_cons (last : Part) (earlier : List Part) :
    textsBehind name (last :: earlier) =
      textsBehind name earlier ++ if last.tag.isOpening name then [last.text] else [] := by
  by_cases named : last.tag.isOpening name = true
  · simp [textsBehind, named]
  · simp [textsBehind, named]

theorem isOpening_ofNode (tag : String) (attributes : List Attribute) :
    (Tag.ofNode tag attributes).isOpening name = decide (tag = name) := by
  rw [Bool.eq_iff_iff]
  simp [Tag.ofNode, Tag.isOpening, String.toList_inj]

theorem textsBehind_addTag_ofNode (tag : String) (attributes : List Attribute) (text : List Char)
    (parts : List Part) :
    textsBehind name (addText text (addTag (.ofNode tag attributes) parts)) =
      textsBehind name parts ++ if tag = name then [text] else [] := by
  rw [addTag, addText, textsBehind_cons, isOpening_ofNode]
  simp

theorem textsBehind_addTag_closing (other text : List Char) (parts : List Part) :
    textsBehind name (addText text (addTag (.closing other) parts)) = textsBehind name parts := by
  rw [addTag, addText, textsBehind_cons]
  simp [Tag.isOpening]

theorem textsBehind_addBody (body : List Char) (parts : List Part) :
    textsBehind name (addBody body parts) = textsBehind name parts := by
  cases parts with
  | nil => rfl
  | cons last earlier => rw [addBody, textsBehind_cons, textsBehind_cons]

mutual

-- A text that stands behind a part may belong to the last tag of that part or, when the
-- part is a text itself, to the tag before it.  So both statements carry it along.

/-- A part of a document adds its texts to those behind the tags before it. -/
theorem textsBehind_addTo (node : Node) (behind : List Char) (parts : List Part) :
    textsBehind name (addText behind (node.addTo parts)) =
      textsBehind name (addText (node.leading behind) parts) ++ node.texts name behind := by
  cases node with
  | text value => rw [addTo, addText_addText, leading, texts, List.append_nil]
  | void tag attributes =>
      rw [addTo, textsBehind_addTag_ofNode, leading, addText_nil, texts]
  | element tag attributes children =>
      rw [addTo, textsBehind_addTag_closing, textsBehind_addAllTo, textsBehind_addTag_ofNode,
        leading, addText_nil, texts, List.append_assoc]
  | script attributes body =>
      have opened : textsBehind name (addTag (.ofNode "script" attributes) parts) =
          textsBehind name parts ++ if "script" = name then [[]] else [] := by
        rw [← textsBehind_addTag_ofNode, addText_nil]
      rw [addTo, textsBehind_addTag_closing, textsBehind_addBody, opened, leading, addText_nil,
        texts]

theorem textsBehind_addAllTo (nodes : List Node) (parts : List Part) :
    textsBehind name (addAllTo parts nodes) =
      textsBehind name (addText (leadingOfAll nodes) parts) ++ textsOfAll name nodes := by
  cases nodes with
  | nil => rw [addAllTo, leadingOfAll, addText_nil, textsOfAll, List.append_nil]
  | cons node rest =>
      rw [addAllTo, textsBehind_addAllTo, textsBehind_addTo, leadingOfAll, textsOfAll,
        List.append_assoc]

end

/-- The texts by their tags, of a rendered document that can be read. -/
theorem textsOf_renderDocument {root : Node} (readable : root.IsReadable) :
    textsOf name (renderDocument root) = (root.texts name []).map String.ofList := by
  have declared : ∀ text, textsBehind name
      (addText text [{ tag := .declaration "DOCTYPE html".toList }]) = [] := fun _ => rfl
  have added : textsBehind name (root.addTo [{ tag := .declaration "DOCTYPE html".toList }]) =
      root.texts name [] := by
    rw [← addText_nil (root.addTo _), textsBehind_addTo, declared, List.nil_append]
  rw [textsOf, read?_renderDocument readable, Option.getD_some, parts, List.reverse_reverse, added]

end Node

end PublicSite.Markup
