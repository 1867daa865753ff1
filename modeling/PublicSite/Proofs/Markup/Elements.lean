import Mathlib.Data.List.Infix

/-!
# Elements between their tags

The elements with a name are the texts between its opening tag and the closing tag
that is found next.  Nothing else is known about the text in which they stand, and
neither is how it was written.
-/

namespace PublicSite.Markup

/-- The text in front of the first place where a mark stands, and the text behind it. -/
def cutAt? (mark : List Char) : List Char → Option (List Char × List Char)
  | [] => none
  | char :: rest =>
      if mark <+: char :: rest then some ([], (char :: rest).drop mark.length)
      else (cutAt? mark rest).map fun (front, behind) => (char :: front, behind)

/-- The tag that opens an element without attributes. -/
def openingTag (name : String) : List Char :=
  '<' :: (name.toList ++ ['>'])

/-- The tag that closes an element. -/
def closingTag (name : String) : List Char :=
  '<' :: '/' :: (name.toList ++ ['>'])

theorem openingTag_ne_nil (name : String) : openingTag name ≠ [] :=
  List.cons_ne_nil '<' _

theorem closingTag_ne_nil (name : String) : closingTag name ≠ [] :=
  List.cons_ne_nil '<' _

theorem append_of_cutAt? {mark chars front behind : List Char}
    (cut : cutAt? mark chars = some (front, behind)) : front ++ (mark ++ behind) = chars := by
  induction chars generalizing front with
  | nil => exact absurd cut (by simp [cutAt?])
  | cons char rest ih =>
      rw [cutAt?] at cut
      split at cut
      · rename_i here
        simp only [Option.some.injEq, Prod.mk.injEq] at cut
        obtain ⟨rfl, rfl⟩ := cut
        exact List.prefix_iff_eq_append.mp here
      · obtain ⟨⟨later, _⟩, cutLater, same⟩ := Option.map_eq_some_iff.mp cut
        simp only [Prod.mk.injEq] at same
        obtain ⟨rfl, rfl⟩ := same
        rw [List.cons_append, ih cutLater]

/-- What stands behind a tag is shorter than what it stands in. -/
theorem length_behind_lt {mark chars front behind : List Char} (hasMark : mark ≠ [])
    (cut : cutAt? mark chars = some (front, behind)) : behind.length < chars.length := by
  have positive : 0 < mark.length := List.length_pos_iff.mpr hasMark
  rw [← append_of_cutAt? cut, List.length_append, List.length_append]
  omega

/-- The text of the first element with a name, and the text behind its closing tag. -/
def nextElement? (name : String) (chars : List Char) : Option (List Char × List Char) := do
  let (_, behind) ← cutAt? (openingTag name) chars
  cutAt? (closingTag name) behind

theorem length_rest_lt {name : String} {chars inside rest : List Char}
    (next : nextElement? name chars = some (inside, rest)) : rest.length < chars.length := by
  obtain ⟨⟨_, behind⟩, opened, closed⟩ := Option.bind_eq_some_iff.mp next
  have shorter : behind.length < chars.length :=
    length_behind_lt (openingTag_ne_nil name) opened
  have shorterYet : rest.length < behind.length :=
    length_behind_lt (closingTag_ne_nil name) closed
  omega

/-- The texts of the elements with a name, in their order. -/
def elementsOf (name : String) (chars : List Char) : List (List Char) :=
  match _ : nextElement? name chars with
  | none => []
  | some (inside, rest) => inside :: elementsOf name rest
termination_by chars.length
decreasing_by exact length_rest_lt ‹_›

theorem elementsOf_of_nextElement? {name : String} {chars inside rest : List Char}
    (next : nextElement? name chars = some (inside, rest)) :
    elementsOf name chars = inside :: elementsOf name rest := by
  rw [elementsOf]
  split
  · rename_i nothing
    exact absurd (nothing.symm.trans next) (Option.some_ne_none _).symm
  · rename_i found
    obtain ⟨rfl, rfl⟩ := Prod.mk.inj (Option.some.inj (found.symm.trans next))
    rfl

theorem elementsOf_of_nextElement?_eq_none {name : String} {chars : List Char}
    (nothing : nextElement? name chars = none) : elementsOf name chars = [] := by
  rw [elementsOf]
  split
  · rfl
  · rename_i found
    exact absurd (nothing.symm.trans found) (Option.some_ne_none _).symm

/-! ## Texts in which a mark does not begin -/

/-- A mark does not begin in a text, whatever stands behind the text: of the mark and an
end of the text none begins the other. -/
def Avoids (mark : List Char) : List Char → Prop
  | [] => True
  | char :: rest => (¬ mark <+: char :: rest ∧ ¬ char :: rest <+: mark) ∧ Avoids mark rest

instance decidableAvoids (mark : List Char) :
    (front : List Char) → Decidable (Avoids mark front)
  | [] => inferInstanceAs (Decidable True)
  | char :: rest =>
      have := decidableAvoids mark rest
      inferInstanceAs (Decidable ((¬ mark <+: char :: rest ∧ _) ∧ _))

namespace Avoids

variable {mark word front back : List Char}

theorem nil (mark : List Char) : Avoids mark [] :=
  trivial

/-- Whether a mark begins somewhere is seen in the text that stands there already. -/
theorem not_prefix_append (differ : ¬ mark <+: front ∧ ¬ front <+: mark) (rest : List Char) :
    ¬ mark <+: front ++ rest := by
  intro begins
  rcases List.prefix_or_prefix_of_prefix begins (List.prefix_append front rest) with found | found
  · exact differ.1 found
  · exact differ.2 found

theorem append (inFront : Avoids mark front) (inBack : Avoids mark back) :
    Avoids mark (front ++ back) := by
  induction front with
  | nil => exact inBack
  | cons char rest ih =>
      obtain ⟨differ, later⟩ := inFront
      -- If this end begins the mark, then so does what of it lies in the front.
      refine ⟨⟨not_prefix_append differ back, fun begins => differ.2 ?_⟩, ih later⟩
      exact (List.prefix_append (char :: rest) back).trans begins

/-- Where there is no sign there is no tag. -/
theorem of_not_mem (absent : '<' ∉ front) : Avoids ('<' :: word) front := by
  induction front with
  | nil => trivial
  | cons char rest ih =>
      have notSign : '<' ≠ char := fun same => absent (same ▸ List.mem_cons_self)
      refine ⟨⟨?_, ?_⟩, ih (mt (List.mem_cons_of_mem char) absent)⟩
      · exact fun begins => notSign (List.cons_prefix_cons.mp begins).1
      · exact fun begins => notSign (List.cons_prefix_cons.mp begins).1.symm

theorem cutAt?_append (avoided : Avoids mark front) (rest : List Char) :
    cutAt? mark (front ++ rest) =
      (cutAt? mark rest).map fun (before, behind) => (front ++ before, behind) := by
  induction front with
  | nil => simp
  | cons char others ih =>
      obtain ⟨differ, later⟩ := avoided
      have notHere : ¬ mark <+: char :: (others ++ rest) := not_prefix_append differ rest
      rw [List.cons_append, cutAt?, if_neg notHere, ih later, Option.map_map]
      rfl

end Avoids

/-- A text is cut where a mark stands in it for the first time. -/
theorem cutAt?_of_avoids {mark front : List Char} (hasMark : mark ≠ [])
    (avoided : Avoids mark front) (rest : List Char) :
    cutAt? mark (front ++ (mark ++ rest)) = some (front, rest) := by
  have here : cutAt? mark (mark ++ rest) = some ([], rest) := by
    obtain ⟨char, others, rfl⟩ := List.exists_cons_of_ne_nil hasMark
    have begins : char :: others <+: char :: (others ++ rest) :=
      List.prefix_append (char :: others) rest
    rw [List.cons_append, cutAt?, if_pos begins, ← List.cons_append, List.drop_left]
  rw [avoided.cutAt?_append, here]
  simp

/-! ## Finding elements -/

/-- What holds no opening tag can be left out in front. -/
theorem elementsOf_append {name : String} {front : List Char}
    (noOpening : Avoids (openingTag name) front) (rest : List Char) :
    elementsOf name (front ++ rest) = elementsOf name rest := by
  have same : nextElement? name (front ++ rest) = nextElement? name rest := by
    rw [nextElement?, noOpening.cutAt?_append, nextElement?]
    cases cutAt? (openingTag name) rest <;> rfl
  cases next : nextElement? name rest with
  | none =>
      rw [elementsOf_of_nextElement?_eq_none next,
        elementsOf_of_nextElement?_eq_none (same.trans next)]
  | some found =>
      rw [elementsOf_of_nextElement? next, elementsOf_of_nextElement? (same.trans next)]

/-- An element ends where its closing tag stands for the first time. -/
theorem elementsOf_element {name : String} {inside : List Char}
    (noClosing : Avoids (closingTag name) inside) (rest : List Char) :
    elementsOf name (openingTag name ++ (inside ++ (closingTag name ++ rest))) =
      inside :: elementsOf name rest := by
  have opened : cutAt? (openingTag name)
      (openingTag name ++ (inside ++ (closingTag name ++ rest))) =
        some ([], inside ++ (closingTag name ++ rest)) :=
    cutAt?_of_avoids (openingTag_ne_nil name) (Avoids.nil (openingTag name)) _
  refine elementsOf_of_nextElement? ?_
  rw [nextElement?, opened]
  exact cutAt?_of_avoids (closingTag_ne_nil name) noClosing rest

@[simp]
theorem elementsOf_nil (name : String) : elementsOf name [] = [] :=
  elementsOf_of_nextElement?_eq_none rfl

theorem elementsOf_of_avoids {name : String} {chars : List Char}
    (noOpening : Avoids (openingTag name) chars) : elementsOf name chars = [] := by
  simpa using elementsOf_append noOpening []

/-- Items that are each written with one element are found again one by one. -/
theorem elementsOf_flatMap {Item : Type} {name : String} {write inside : Item → List Char}
    (step : ∀ item rest,
      elementsOf name (write item ++ rest) = inside item :: elementsOf name rest)
    (items : List Item) (rest : List Char) :
    elementsOf name (items.flatMap write ++ rest) =
      items.map inside ++ elementsOf name rest := by
  induction items with
  | nil => rfl
  | cons item others ih =>
      rw [List.flatMap_cons, List.append_assoc, step, ih, List.map_cons, List.cons_append]

end PublicSite.Markup
