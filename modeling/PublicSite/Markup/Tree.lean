import PublicSite.Markup.Escape

/-!
# Documents as trees

A document is a tree of elements.  Its text and the values of its attributes are
escaped when it is rendered; only the body of a script is written as it is, so
what stands there must not hold the text that ends a script.
-/

namespace PublicSite.Markup

/-- A name and a value. -/
abbrev Attribute := String × String

/-- A part of a document. -/
inductive Node where
  | text (value : String)
  /-- An element without content, which has no closing tag. -/
  | void (tag : String) (attributes : List Attribute)
  | element (tag : String) (attributes : List Attribute) (children : List Node)
  /-- A script with its body, which is not escaped. -/
  | script (attributes : List Attribute) (body : List Char)

/-- Attributes as they stand in a tag, each after a space. -/
def renderAttributes (attributes : List Attribute) : List Char :=
  attributes.flatMap fun (name, value) =>
    ' ' :: name.toList ++ '=' :: '"' :: escapeText value.toList ++ ['"']

/-- An opening tag. -/
def renderOpening (tag : String) (attributes : List Attribute) : List Char :=
  '<' :: tag.toList ++ renderAttributes attributes ++ ['>']

/-- A closing tag. -/
def renderClosing (tag : String) : List Char :=
  '<' :: '/' :: tag.toList ++ ['>']

namespace Node

mutual

/-- The text of a part of a document. -/
def render : Node → List Char
  | .text value => escapeText value.toList
  | .void tag attributes => renderOpening tag attributes
  | .element tag attributes children =>
      renderOpening tag attributes ++ renderAll children ++ renderClosing tag
  | .script attributes body =>
      renderOpening "script" attributes ++ body ++ renderClosing "script"

/-- The text of several parts, one after the other. -/
def renderAll : List Node → List Char
  | [] => []
  | node :: rest => node.render ++ renderAll rest

end

end Node

/-- The declaration that a document begins with. -/
def doctype : List Char := "<!DOCTYPE html>".toList

/-- The text of a whole document. -/
def renderDocument (root : Node) : String :=
  String.ofList (doctype ++ root.render)

end PublicSite.Markup
