import PublicSite.Markup.Escape

/-!
# Reading documents

A document is read one character at a time, as a browser tells tags from text.
What is read is a list of parts, each a tag with what stands behind it up to the
next tag.  The value of an attribute ends at the next quotation mark, text ends at
the next sign that opens a tag, and the body of a script, which holds no entities,
ends at the next such sign with a slash behind it.

The reader knows nothing of how documents are rendered.  It is strict: a text with
a tag that is written in another way is not read at all.
-/

namespace PublicSite.Markup

/-! ## Tags and parts -/

/-- A tag.  Its name and its attributes are texts. -/
inductive Tag where
  | declaration (text : List Char)
  | opening (name : List Char) (attributes : List (List Char × List Char))
  | closing (name : List Char)
  deriving DecidableEq, Repr

/-- A tag with what stands behind it: a text, or in a script its body. -/
structure Part where
  tag : Tag
  text : List Char := []
  body : List Char := []
  deriving DecidableEq, Repr

namespace Tag

/-- The tag with another text in place of the value of each attribute. -/
def mapValues (change : List Char → List Char) : Tag → Tag
  | .opening name attributes =>
      .opening name (attributes.map fun (name, value) => (name, change value))
  | other => other

/-- What is left of a tag when the values of its attributes do not count. -/
def shape : Tag → Tag :=
  mapValues fun _ => []

/-- The tag opens an element with a name. -/
def isOpening (name : String) : Tag → Bool
  | .opening other _ => other == name.toList
  | _ => false

end Tag

namespace Part

/-- The part with another text in place of each text that may hold entities. -/
def mapTexts (change : List Char → List Char) (part : Part) : Part where
  tag := part.tag.mapValues change
  text := change part.text
  body := part.body

end Part

/-- Add a tag to the parts that have been read, the last of which comes first. -/
def addTag (tag : Tag) (parts : List Part) : List Part :=
  { tag } :: parts

/-- Add a text behind the last tag. -/
def addText (text : List Char) : List Part → List Part
  | [] => []
  | last :: earlier => { last with text := last.text ++ text } :: earlier

/-- Add to the body of a script. -/
def addBody (body : List Char) : List Part → List Part
  | [] => []
  | last :: earlier => { last with body := last.body ++ body } :: earlier

/-! ## The reader -/

/-- Where in a document a reader stands. -/
inductive Place where
  | text
  /-- Behind the sign that opens a tag. -/
  | sign
  | declaration (seen : List Char)
  | closing (seen : List Char)
  | opening (seen : List Char)
  | attributeName (tag : List Char) (attributes : List (List Char × List Char))
      (seen : List Char)
  /-- Behind an equals sign. -/
  | attributeSign (tag : List Char) (attributes : List (List Char × List Char))
      (name : List Char)
  | attributeValue (tag : List Char) (attributes : List (List Char × List Char))
      (name seen : List Char)
  /-- Behind the name of a tag or an attribute of it. -/
  | behind (tag : List Char) (attributes : List (List Char × List Char))
  | script
  /-- Behind a sign in a script that may begin its closing tag. -/
  | scriptSign
  /-- Behind something that is written in another way. -/
  | lost
  deriving DecidableEq, Repr

/-- A reader: the parts that it has read, the last of which comes first, and where
it stands. -/
structure Reader where
  parts : List Part
  place : Place
  deriving DecidableEq, Repr

namespace Reader

/-- The name of scripts. -/
def scriptName : List Char := "script".toList

/-- A reader at the beginning of a document. -/
def start : Reader := ⟨[], .text⟩

/-- The reader at another place. -/
def goTo (reader : Reader) (place : Place) : Reader :=
  { reader with place }

/-- The reader behind a tag. -/
def finish (reader : Reader) (tag : Tag) : Reader where
  parts := addTag tag reader.parts
  place := match tag with
    | .opening name _ => if name = scriptName then .script else .text
    | _ => .text

/-- The reader behind the name of a tag or an attribute of it, one character on. -/
def stepBehind (reader : Reader) (tag : List Char) (attributes : List (List Char × List Char))
    (char : Char) : Reader :=
  if char = ' ' then reader.goTo (.attributeName tag attributes [])
  else if char = '>' then reader.finish (.opening tag attributes)
  else reader.goTo .lost

/-- The reader behind one more character. -/
def step (reader : Reader) (char : Char) : Reader :=
  match reader.place with
  | .text =>
      if char = '<' then reader.goTo .sign
      else { reader with parts := addText [char] reader.parts }
  | .sign =>
      if char = '!' then reader.goTo (.declaration [])
      else if char = '/' then reader.goTo (.closing [])
      else if char.isAlpha then reader.goTo (.opening [char])
      else reader.goTo .lost
  | .declaration seen =>
      if char = '>' then reader.finish (.declaration seen)
      else reader.goTo (.declaration (seen ++ [char]))
  | .closing seen =>
      if char = '>' then reader.finish (.closing seen)
      else reader.goTo (.closing (seen ++ [char]))
  | .opening seen =>
      if char.isAlphanum then reader.goTo (.opening (seen ++ [char]))
      else reader.stepBehind seen [] char
  | .attributeName tag attributes seen =>
      if char = '=' then reader.goTo (.attributeSign tag attributes seen)
      else if char.isAlphanum then reader.goTo (.attributeName tag attributes (seen ++ [char]))
      else reader.goTo .lost
  | .attributeSign tag attributes name =>
      if char = '"' then reader.goTo (.attributeValue tag attributes name [])
      else reader.goTo .lost
  | .attributeValue tag attributes name seen =>
      if char = '"' then reader.goTo (.behind tag (attributes ++ [(name, seen)]))
      else reader.goTo (.attributeValue tag attributes name (seen ++ [char]))
  | .behind tag attributes => reader.stepBehind tag attributes char
  | .script =>
      if char = '<' then reader.goTo .scriptSign
      else { reader with parts := addBody [char] reader.parts }
  | .scriptSign =>
      if char = '/' then reader.goTo (.closing [])
      else if char = '<' then { reader with parts := addBody ['<'] reader.parts }
      else ⟨addBody ['<', char] reader.parts, .script⟩
  | .lost => reader

/-- The reader behind a text. -/
def run (reader : Reader) (chars : List Char) : Reader :=
  chars.foldl step reader

end Reader

/-- The parts of a document, with its entities undone; nothing when it is not
written as documents are. -/
def read? (chars : List Char) : Option (List Part) :=
  let reader := Reader.start.run chars
  if reader.place = .text then some (reader.parts.reverse.map (Part.mapTexts unescape))
  else none

end PublicSite.Markup
