import PublicSite.Proofs.Markup.Rendering

/-!
# Parts one after another

An element or a script adds its own parts to those that were read before it and leaves
these as they are.  So the parts of a tree can be written down element by element.
-/

namespace PublicSite.Markup

namespace Part

/-- An opening tag with the values of its attributes, and the text behind it. -/
def opened (name : String) (attributes : List Attribute) (text : String) : Part where
  tag := .ofNode name attributes
  text := text.toList

/-- A closing tag with no text behind it. -/
def closed (name : String) : Part where
  tag := .closing name.toList

/-- The declaration that a document begins with. -/
def declared : Part where
  tag := .declaration "DOCTYPE html".toList

end Part

namespace Node

open PublicSite.Markup.Part

/-- A part of a document is read as parts of its own, behind any others. -/
def Gives (node : Node) (own : List Part) : Prop :=
  ∀ before, node.addTo before = own.reverse ++ before

/-- `Gives` for several parts of a document. -/
def GiveAll (nodes : List Node) (own : List Part) : Prop :=
  ∀ before, addAllTo before nodes = own.reverse ++ before

theorem Gives.of_eq {node : Node} {own other : List Part} (gives : node.Gives own)
    (same : other = own) : node.Gives other :=
  same ▸ gives

theorem gives_void (tag : String) (attributes : List Attribute) :
    (Node.void tag attributes).Gives [opened tag attributes ""] :=
  fun _ => rfl

theorem gives_script (attributes : List Attribute) (body : List Char) :
    (Node.script attributes body).Gives
      [{ opened "script" attributes "" with body }, closed "script"] :=
  fun _ => rfl

/-- An element that holds only a text. -/
theorem gives_text (tag : String) (attributes : List Attribute) (text : String) :
    (Node.element tag attributes [.text text]).Gives [opened tag attributes text, closed tag] :=
  fun _ => rfl

theorem gives_element (tag : String) (attributes : List Attribute) {children : List Node}
    {own : List Part} (give : GiveAll children own) :
    (Node.element tag attributes children).Gives
      (opened tag attributes "" :: own ++ [closed tag]) := by
  intro before
  rw [addTo, give, List.cons_append, List.reverse_cons, List.reverse_append, List.append_assoc]
  rfl

theorem giveAll_nil : GiveAll [] [] :=
  fun _ => rfl

theorem giveAll_cons {node : Node} {rest : List Node} {first others : List Part}
    (gives : node.Gives first) (give : GiveAll rest others) :
    GiveAll (node :: rest) (first ++ others) := by
  intro before
  rw [addAllTo, gives, give, List.reverse_append, List.append_assoc]

theorem addAllTo_append (before : List Part) (front back : List Node) :
    addAllTo before (front ++ back) = addAllTo (addAllTo before front) back := by
  induction front generalizing before with
  | nil => rfl
  | cons node rest ih => rw [List.cons_append, addAllTo, ih, addAllTo]

theorem giveAll_append {front back : List Node} {first others : List Part}
    (frontGive : GiveAll front first) (backGive : GiveAll back others) :
    GiveAll (front ++ back) (first ++ others) := by
  intro before
  rw [addAllTo_append, frontGive, backGive, List.reverse_append, List.append_assoc]

theorem giveAll_map {α : Type} {node : α → Node} {own : α → List Part}
    (gives : ∀ item, (node item).Gives (own item)) (items : List α) :
    GiveAll (items.map node) (items.flatMap own) := by
  induction items with
  | nil => exact giveAll_nil
  | cons item rest ih => exact giveAll_cons (gives item) ih

/-- The parts of a whole document are its declaration and those of its root. -/
theorem parts_of_gives {root : Node} {own : List Part} (gives : root.Gives own) :
    root.parts = declared :: own := by
  rw [parts, gives, List.reverse_append, List.reverse_reverse]
  rfl

end Node

end PublicSite.Markup
