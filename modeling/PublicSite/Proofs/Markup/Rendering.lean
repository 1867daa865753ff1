import PublicSite.Markup.Tree
import PublicSite.Proofs.Markup.Escape
import PublicSite.Proofs.Markup.Reader

/-!
# What is read of a rendered tree
-/

namespace PublicSite.Markup

/-! ## Trees that can be read -/

/-- A letter, and then letters and digits. -/
def isName : List Char → Bool
  | [] => false
  | first :: rest => first.isAlpha && rest.all Char.isAlphanum

/-- Every attribute has a name that can stand in a tag. -/
def areNamed (attributes : List Attribute) : Bool :=
  attributes.all fun (name, _) => isName name.toList

/-- A tag can be read, and it does not begin a script. -/
def isOrdinary (tag : String) (attributes : List Attribute) : Bool :=
  isName tag.toList && tag.toList != Reader.scriptName && areNamed attributes

/-- What ends a script. -/
def scriptEnd : List Char := "</".toList

namespace Node

mutual

/-- Names can stand in tags, only scripts have the name of scripts, and their
bodies do not hold what ends them. -/
def IsReadable : Node → Prop
  | .text _ => True
  | .void tag attributes => isOrdinary tag attributes = true
  | .element tag attributes children =>
      isOrdinary tag attributes = true ∧ AreReadable children
  | .script attributes body => areNamed attributes = true ∧ ¬ scriptEnd <:+: body

/-- Each of several parts of a document can be read. -/
def AreReadable : List Node → Prop
  | [] => True
  | node :: rest => node.IsReadable ∧ AreReadable rest

end

end Node

namespace Node

theorem areReadable_append {front back : List Node} (frontReadable : AreReadable front)
    (backReadable : AreReadable back) : AreReadable (front ++ back) := by
  induction front with
  | nil => exact backReadable
  | cons node rest ih => exact ⟨frontReadable.1, ih frontReadable.2⟩

theorem areReadable_map {α : Type} {node : α → Node}
    (readable : ∀ item, (node item).IsReadable) (items : List α) :
    AreReadable (items.map node) := by
  induction items with
  | nil => trivial
  | cons item rest ih => exact ⟨readable item, ih⟩

end Node

/-- The opening tag of an element. -/
def Tag.ofNode (tag : String) (attributes : List Attribute) : Tag :=
  .opening tag.toList (attributes.map fun (name, value) => (name.toList, value.toList))

namespace Node

mutual

/-- The parts that reading a part of a document adds to those before it. -/
def addTo (parts : List Part) : Node → List Part
  | .text value => addText value.toList parts
  | .void tag attributes => addTag (.ofNode tag attributes) parts
  | .element tag attributes children =>
      addTag (.closing tag.toList) (addAllTo (addTag (.ofNode tag attributes) parts) children)
  | .script attributes body =>
      addTag (.closing Reader.scriptName)
        (addBody body (addTag (.ofNode "script" attributes) parts))

/-- The parts that reading several parts of a document adds. -/
def addAllTo (parts : List Part) : List Node → List Part
  | [] => parts
  | node :: rest => addAllTo (node.addTo parts) rest

end

/-- The parts of a whole document. -/
def parts (root : Node) : List Part :=
  (root.addTo [{ tag := .declaration "DOCTYPE html".toList }]).reverse

end Node

/-! ## Texts as they are written -/

/-- Parts as they are written, with entities. -/
def written (parts : List Part) : List Part :=
  parts.map (Part.mapTexts escapeText)

theorem addTag_written (tag : Tag) (parts : List Part) :
    addTag (tag.mapValues escapeText) (written parts) = written (addTag tag parts) :=
  rfl

theorem addText_written (text : List Char) (parts : List Part) :
    addText (escapeText text) (written parts) = written (addText text parts) := by
  cases parts with
  | nil => rfl
  | cons last earlier => simp [addText, written, Part.mapTexts, escapeText_append]

theorem addBody_written (body : List Char) (parts : List Part) :
    addBody body (written parts) = written (addBody body parts) := by
  cases parts with
  | nil => rfl
  | cons last earlier => rfl

theorem Tag.mapValues_unescape_escapeText (tag : Tag) :
    (tag.mapValues escapeText).mapValues unescape = tag := by
  cases tag with
  | declaration text => rfl
  | opening name attributes => simp [mapValues, Function.comp_def]
  | closing name => rfl

theorem map_unescape_written (parts : List Part) :
    (written parts).map (Part.mapTexts unescape) = parts := by
  have undone : ∀ part : Part, (part.mapTexts escapeText).mapTexts unescape = part := by
    intro part
    simp [Part.mapTexts, Tag.mapValues_unescape_escapeText]
  rw [written, List.map_map]
  exact (List.map_congr_left fun part _ => undone part).trans (List.map_id parts)

/-! ## Runs of the reader -/

theorem addText_nil (parts : List Part) : addText [] parts = parts := by
  cases parts <;> simp [addText]

theorem addText_addText (front back : List Char) (parts : List Part) :
    addText back (addText front parts) = addText (front ++ back) parts := by
  cases parts <;> simp [addText]

theorem addBody_nil (parts : List Part) : addBody [] parts = parts := by
  cases parts <;> simp [addBody]

theorem addBody_addBody (front back : List Char) (parts : List Part) :
    addBody back (addBody front parts) = addBody (front ++ back) parts := by
  cases parts <;> simp [addBody]

namespace Reader

variable {parts : List Part}

theorem run_append (reader : Reader) (front back : List Char) :
    reader.run (front ++ back) = (reader.run front).run back :=
  List.foldl_append

theorem run_cons (reader : Reader) (char : Char) (rest : List Char) :
    reader.run (char :: rest) = (reader.step char).run rest :=
  rfl

/-- A place where the reader collects characters until another one ends it. -/
theorem run_collect {place : List Char → Place} {chars : List Char}
    (collects : ∀ seen, ∀ char ∈ chars,
      step ⟨parts, place seen⟩ char = ⟨parts, place (seen ++ [char])⟩)
    (seen : List Char) :
    run ⟨parts, place seen⟩ chars = ⟨parts, place (seen ++ chars)⟩ := by
  induction chars generalizing seen with
  | nil =>
      rw [List.append_nil]
      rfl
  | cons char rest ih =>
      have restCollects := fun seen other member =>
        collects seen other (List.mem_cons_of_mem char member)
      rw [run_cons, collects seen char List.mem_cons_self, ih restCollects, List.append_assoc,
        List.singleton_append]

/-- A text goes on as long as nothing opens a tag. -/
theorem run_text {chars : List Char} (noSign : '<' ∉ chars) :
    run ⟨parts, .text⟩ chars = ⟨addText chars parts, .text⟩ := by
  induction chars generalizing parts with
  | nil =>
      rw [addText_nil]
      rfl
  | cons char rest ih =>
      obtain ⟨notSign, restNoSign⟩ := List.ne_and_not_mem_of_not_mem_cons noSign
      have next : step ⟨parts, .text⟩ char = ⟨addText [char] parts, .text⟩ :=
        if_neg (Ne.symm notSign)
      rw [run_cons, next, ih restNoSign, addText_addText, List.singleton_append]

/-! ### Tags -/

theorem ne_of_isAlphanum {char other : Char} (isAlphanum : char.isAlphanum = true)
    (isOther : other.isAlphanum = false) : char ≠ other := by
  rintro rfl
  rw [isAlphanum] at isOther
  exact Bool.false_ne_true isOther.symm

theorem isAlphanum_of_isName {name : List Char} (named : isName name = true) :
    ∀ char ∈ name, char.isAlphanum = true := by
  cases name with
  | nil => exact fun _ member => absurd member List.not_mem_nil
  | cons first rest =>
      obtain ⟨isAlpha, restAlphanum⟩ := Bool.and_eq_true_iff.mp named
      intro char member
      rcases List.mem_cons.mp member with rfl | inside
      · rw [Char.isAlphanum, isAlpha, Bool.true_or]
      · exact List.all_eq_true.mp restAlphanum char inside

/-- An attribute is read with the text that its value is written as. -/
theorem run_attribute {name : List Char} (named : isName name = true) (tag value : List Char)
    (attributes : List (List Char × List Char)) :
    run ⟨parts, .behind tag attributes⟩
        (' ' :: name ++ '=' :: '"' :: escapeText value ++ ['"']) =
      ⟨parts, .behind tag (attributes ++ [(name, escapeText value)])⟩ := by
  have collectsName : ∀ seen, ∀ char ∈ name,
      step ⟨parts, .attributeName tag attributes seen⟩ char =
        ⟨parts, .attributeName tag attributes (seen ++ [char])⟩ := by
    intro seen char member
    have isAlphanum := isAlphanum_of_isName named char member
    have notEquals : char ≠ '=' := ne_of_isAlphanum isAlphanum (by decide)
    simp [step, goTo, notEquals, isAlphanum]
  have collectsValue : ∀ seen, ∀ char ∈ escapeText value,
      step ⟨parts, .attributeValue tag attributes name seen⟩ char =
        ⟨parts, .attributeValue tag attributes name (seen ++ [char])⟩ := by
    intro seen char member
    have notQuote : char ≠ '"' := by
      rintro rfl
      exact not_mem_escapeText (by decide) (by decide) value member
    exact if_neg notQuote
  have front : run ⟨parts, .behind tag attributes⟩ (' ' :: name) =
      ⟨parts, .attributeName tag attributes name⟩ :=
    run_collect collectsName []
  have back : run ⟨parts, .attributeName tag attributes name⟩
      ('=' :: '"' :: escapeText value) =
        ⟨parts, .attributeValue tag attributes name (escapeText value)⟩ :=
    run_collect collectsValue []
  rw [run_append, run_append, front, back]
  rfl

theorem run_attributes {attributes : List Attribute} (named : areNamed attributes = true)
    (tag : List Char) (seen : List (List Char × List Char)) :
    run ⟨parts, .behind tag seen⟩ (renderAttributes attributes) =
      ⟨parts, .behind tag (seen ++ attributes.map fun (name, value) =>
        (name.toList, escapeText value.toList))⟩ := by
  induction attributes generalizing seen with
  | nil =>
      rw [List.map_nil, List.append_nil]
      rfl
  | cons first rest ih =>
      obtain ⟨firstNamed, restNamed⟩ := Bool.and_eq_true_iff.mp named
      have split_eq : renderAttributes (first :: rest) =
          (' ' :: first.1.toList ++ '=' :: '"' :: escapeText first.2.toList ++ ['"']) ++
            renderAttributes rest :=
        List.flatMap_cons
      rw [split_eq, run_append, run_attribute firstNamed, ih restNamed]
      simp

/-- Attributes and the end of a tag may follow its name at once. -/
theorem run_opening_attributes (name : List Char) (attributes : List Attribute) :
    run ⟨parts, .opening name⟩ (renderAttributes attributes ++ ['>']) =
      run ⟨parts, .behind name []⟩ (renderAttributes attributes ++ ['>']) := by
  cases attributes with
  | nil => rfl
  | cons first rest => rfl

theorem run_renderOpening {tag : String} {attributes : List Attribute}
    (named : isName tag.toList = true) (attributesNamed : areNamed attributes = true) :
    run ⟨written parts, .text⟩ (renderOpening tag attributes) =
      finish ⟨written parts, .text⟩ ((Tag.ofNode tag attributes).mapValues escapeText) := by
  cases letters : tag.toList with
  | nil => simp [letters, isName] at named
  | cons first rest =>
      rw [letters] at named
      obtain ⟨isAlpha, restAlphanum⟩ := Bool.and_eq_true_iff.mp named
      have isAlphanum := isAlphanum_of_isName named
      have notDeclaration : first ≠ '!' :=
        ne_of_isAlphanum (isAlphanum first List.mem_cons_self) (by decide)
      have notClosing : first ≠ '/' :=
        ne_of_isAlphanum (isAlphanum first List.mem_cons_self) (by decide)
      have opened : run ⟨written parts, .text⟩ ['<', first] =
          ⟨written parts, .opening [first]⟩ := by
        simp [run, step, goTo, notDeclaration, notClosing, isAlpha]
      have collects : ∀ seen, ∀ char ∈ rest, step ⟨written parts, .opening seen⟩ char =
          ⟨written parts, .opening (seen ++ [char])⟩ := fun seen char member =>
        if_pos (isAlphanum char (List.mem_cons_of_mem first member))
      have rendered : renderOpening tag attributes =
          ['<', first] ++ (rest ++ (renderAttributes attributes ++ ['>'])) := by
        simp [renderOpening, letters]
      rw [rendered, run_append, opened, run_append, run_collect collects,
        run_opening_attributes, run_append, run_attributes attributesNamed]
      simp [Tag.ofNode, Tag.mapValues, letters, run, step, stepBehind, finish, Function.comp_def]

/-- The name of a closing tag goes on up to its end. -/
theorem run_closing {name : List Char} (named : isName name = true) :
    run ⟨parts, .closing []⟩ (name ++ ['>']) = ⟨addTag (.closing name) parts, .text⟩ := by
  have collects : ∀ seen, ∀ char ∈ name, step ⟨parts, .closing seen⟩ char =
      ⟨parts, .closing (seen ++ [char])⟩ := by
    intro seen char member
    have notEnd : char ≠ '>' :=
      ne_of_isAlphanum (isAlphanum_of_isName named char member) (by decide)
    exact if_neg notEnd
  rw [run_append, run_collect collects]
  rfl

theorem run_renderClosing {tag : String} (named : isName tag.toList = true) :
    run ⟨parts, .text⟩ (renderClosing tag) = ⟨addTag (.closing tag.toList) parts, .text⟩ :=
  run_closing named

/-! ### Scripts -/

/-- A sign in a script that no slash follows belongs to the body. -/
theorem step_scriptSign {char : Char} (noSlash : char ≠ '/') :
    step ⟨parts, .scriptSign⟩ char = step ⟨addBody ['<'] parts, .script⟩ char := by
  by_cases sign : char = '<'
  · simp [step, goTo, sign]
  · simp [step, noSlash, sign, addBody_addBody]

/-- The body of a script goes on up to what ends it. -/
theorem run_script {body : List Char} (noEnd : ¬ scriptEnd <:+: body) (rest : List Char) :
    run ⟨parts, .script⟩ (body ++ scriptEnd ++ rest) =
      run ⟨addBody body parts, .closing []⟩ rest := by
  induction body generalizing parts with
  | nil =>
      rw [addBody_nil]
      rfl
  | cons char others ih =>
      have othersNoEnd : ¬ scriptEnd <:+: others := fun inside =>
        noEnd (inside.trans (List.suffix_cons char others).isInfix)
      have onwards := @ih (addBody [char] parts) othersNoEnd
      rw [addBody_addBody, List.singleton_append] at onwards
      rw [← onwards, List.cons_append, List.cons_append, run_cons]
      by_cases sign : char = '<'
      · subst sign
        -- The next character is no slash, so this sign belongs to the body.
        obtain ⟨next, later, split, noSlash⟩ : ∃ next later,
            others ++ scriptEnd ++ rest = next :: later ∧ next ≠ '/' := by
          cases others with
          | nil => exact ⟨'<', '/' :: rest, rfl, by decide⟩
          | cons next later =>
              refine ⟨next, later ++ scriptEnd ++ rest, rfl, ?_⟩
              rintro rfl
              exact noEnd ⟨[], later, rfl⟩
        rw [split, run_cons, run_cons]
        exact congrArg (run · later) (step_scriptSign noSlash)
      · have next : step ⟨parts, .script⟩ char = ⟨addBody [char] parts, .script⟩ := if_neg sign
        rw [next]

/-! ### Trees -/

theorem isName_of_isOrdinary {tag : String} {attributes : List Attribute}
    (ordinary : isOrdinary tag attributes = true) : isName tag.toList = true :=
  (Bool.and_eq_true_iff.mp (Bool.and_eq_true_iff.mp ordinary).1).1

/-- Behind an ordinary opening tag there is text. -/
theorem run_renderOpening_of_isOrdinary {tag : String} {attributes : List Attribute}
    (ordinary : isOrdinary tag attributes = true) :
    run ⟨written parts, .text⟩ (renderOpening tag attributes) =
      ⟨written (addTag (.ofNode tag attributes) parts), .text⟩ := by
  obtain ⟨nameAllowed, attributesNamed⟩ := Bool.and_eq_true_iff.mp ordinary
  obtain ⟨named, isOther⟩ := Bool.and_eq_true_iff.mp nameAllowed
  have noScript : tag.toList ≠ scriptName := bne_iff_ne.mp isOther
  rw [run_renderOpening named attributesNamed, ← addTag_written]
  simp [finish, Tag.ofNode, Tag.mapValues, noScript]

theorem run_render_script {attributes : List Attribute} {body : List Char}
    (attributesNamed : areNamed attributes = true) (noEnd : ¬ scriptEnd <:+: body) :
    run ⟨written parts, .text⟩ (Node.script attributes body).render =
      ⟨written ((Node.script attributes body).addTo parts), .text⟩ := by
  have scriptNamed : isName scriptName = true := by decide
  have opened : run ⟨written parts, .text⟩ (renderOpening "script" attributes) =
      ⟨written (addTag (.ofNode "script" attributes) parts), .script⟩ := by
    rw [run_renderOpening scriptNamed attributesNamed, ← addTag_written]
    rfl
  have closing : renderClosing "script" = scriptEnd ++ (scriptName ++ ['>']) := rfl
  rw [Node.render, List.append_assoc, run_append, opened, closing, ← List.append_assoc,
    run_script noEnd, run_closing scriptNamed, addBody_written]
  rfl

end Reader

open Reader

mutual

/-- A part of a document is read as its tags and its texts, whatever they are. -/
theorem Node.run_render {node : Node} (readable : node.IsReadable) (parts : List Part) :
    run ⟨written parts, .text⟩ node.render = ⟨written (node.addTo parts), .text⟩ := by
  cases node with
  | text value =>
      rw [Node.render, run_text (not_mem_escapeText (by decide) (by decide) _), addText_written]
      rfl
  | void tag attributes => exact run_renderOpening_of_isOrdinary readable
  | element tag attributes children =>
      obtain ⟨ordinary, childrenReadable⟩ := readable
      rw [Node.render, run_append, run_append, run_renderOpening_of_isOrdinary ordinary,
        Node.run_renderAll childrenReadable, run_renderClosing (isName_of_isOrdinary ordinary)]
      rfl
  | script attributes body => exact run_render_script readable.1 readable.2

theorem Node.run_renderAll {nodes : List Node} (readable : Node.AreReadable nodes)
    (parts : List Part) :
    run ⟨written parts, .text⟩ (Node.renderAll nodes) =
      ⟨written (Node.addAllTo parts nodes), .text⟩ := by
  cases nodes with
  | nil => rfl
  | cons node rest =>
      rw [Node.renderAll, run_append, Node.run_render readable.1, Node.run_renderAll readable.2]
      rfl

end

/-- Reading a rendered document gives the tags and the texts of its tree. -/
theorem Node.read?_renderDocument {root : Node} (readable : root.IsReadable) :
    read? (renderDocument root).toList = some root.parts := by
  have declared : run start doctype =
      ⟨written [{ tag := .declaration "DOCTYPE html".toList }], .text⟩ := by
    decide
  have finished : run start (renderDocument root).toList =
      ⟨written (root.addTo [{ tag := .declaration "DOCTYPE html".toList }]), .text⟩ := by
    rw [renderDocument, String.toList_ofList, run_append, declared, root.run_render readable]
  rw [read?, finished]
  simp only [if_true]
  rw [Node.parts, List.map_reverse, map_unescape_written]

/-! ## Tags of a tree -/

namespace Node

mutual

/-- The tags of a part of a document in the order in which they are written. -/
def tags : Node → List Tag
  | .text _ => []
  | .void tag attributes => [.ofNode tag attributes]
  | .element tag attributes children =>
      .ofNode tag attributes :: (tagsOfAll children ++ [.closing tag.toList])
  | .script attributes _ => [.ofNode "script" attributes, .closing Reader.scriptName]

/-- The tags of several parts of a document. -/
def tagsOfAll : List Node → List Tag
  | [] => []
  | node :: rest => node.tags ++ tagsOfAll rest

end

theorem tagsOfAll_append (front back : List Node) :
    tagsOfAll (front ++ back) = tagsOfAll front ++ tagsOfAll back := by
  induction front with
  | nil => rfl
  | cons node rest ih => rw [List.cons_append, tagsOfAll, ih, tagsOfAll, List.append_assoc]

theorem tagsOfAll_map {α : Type} (node : α → Node) (items : List α) :
    tagsOfAll (items.map node) = items.flatMap fun item => (node item).tags := by
  induction items with
  | nil => rfl
  | cons item rest ih => rw [List.map_cons, tagsOfAll, ih, List.flatMap_cons]

theorem map_tag_addText (text : List Char) (parts : List Part) :
    (addText text parts).map Part.tag = parts.map Part.tag := by
  cases parts <;> rfl

theorem map_tag_addBody (body : List Char) (parts : List Part) :
    (addBody body parts).map Part.tag = parts.map Part.tag := by
  cases parts <;> rfl

theorem map_tag_addTag (tag : Tag) (parts : List Part) :
    (addTag tag parts).map Part.tag = tag :: parts.map Part.tag :=
  rfl

mutual

theorem map_tag_addTo (node : Node) (parts : List Part) :
    (node.addTo parts).map Part.tag = node.tags.reverse ++ parts.map Part.tag := by
  cases node with
  | text value => exact map_tag_addText _ _
  | void tag attributes => rfl
  | element tag attributes children =>
      rw [addTo, map_tag_addTag, map_tag_addAllTo, map_tag_addTag, tags]
      simp
  | script attributes body =>
      rw [addTo, map_tag_addTag, map_tag_addBody, map_tag_addTag, tags]
      rfl

theorem map_tag_addAllTo (nodes : List Node) (parts : List Part) :
    (addAllTo parts nodes).map Part.tag = (tagsOfAll nodes).reverse ++ parts.map Part.tag := by
  cases nodes with
  | nil => rfl
  | cons node rest =>
      rw [addAllTo, map_tag_addAllTo, map_tag_addTo, tagsOfAll, List.reverse_append,
        List.append_assoc]

end

/-- The tags of a document are its declaration and the tags of its tree. -/
theorem map_tag_parts (root : Node) :
    root.parts.map Part.tag = .declaration "DOCTYPE html".toList :: root.tags := by
  rw [parts, List.map_reverse, map_tag_addTo]
  simp

end Node

end PublicSite.Markup
