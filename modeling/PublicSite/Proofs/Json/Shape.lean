import PublicSite.Proofs.Json.Reading

/-!
# Shapes of values

A shape says which members a value has at every place: those of an object by their
names and in their order, and no other ones.  A value of a shape without numbers is
read back as it is, however long its lists are, because only the shape decides how
deeply it is nested.
-/

namespace PublicSite.Json

/-- The shape of values that are built from texts. -/
inductive Shape where
  | text
  | list (item : Shape)
  | object (members : List (String × Shape))

namespace Shape

mutual

/-- How deeply lists and objects are nested. -/
def depth : Shape → Nat
  | .text => 0
  | .list item => item.depth + 1
  | .object members => depthOfMembers members + 1

/-- The greatest depth of the members. -/
def depthOfMembers : List (String × Shape) → Nat
  | [] => 0
  | (_, shape) :: rest => max shape.depth (depthOfMembers rest)

end

end Shape

namespace Value

mutual

/-- The value has exactly the members that the shape names, at every place. -/
def Fits : Value → Shape → Prop
  | .text _, .text => True
  | .array items, .list shape => ItemsFit shape items
  | .object members, .object shapes => MembersFit members shapes
  | _, _ => False

/-- `Fits` of each item. -/
def ItemsFit (shape : Shape) : List Value → Prop
  | [] => True
  | item :: rest => item.Fits shape ∧ ItemsFit shape rest

/-- `Fits` of the value of each member, with equal names. -/
def MembersFit : List (String × Value) → List (String × Shape) → Prop
  | [], [] => True
  | (name, value) :: rest, (expected, shape) :: shapes =>
      name = expected ∧ value.Fits shape ∧ MembersFit rest shapes
  | _, _ => False

end

theorem itemsFit_map {α : Type} {write : α → Value} {shape : Shape}
    (each : ∀ item, (write item).Fits shape) (items : List α) :
    ItemsFit shape (items.map write) := by
  induction items with
  | nil => trivial
  | cons item rest ih => exact ⟨each item, ih⟩

mutual

theorem IsPlain.of_fits {value : Value} {shape : Shape} {room : Nat} (fits : value.Fits shape)
    (shallow : shape.depth ≤ room) : value.IsPlain room := by
  match value, shape, room with
  | .text _, .text, _ => trivial
  | .array items, .list shape, 0 => simp [Shape.depth] at shallow
  | .object members, .object shapes, 0 => simp [Shape.depth] at shallow
  | .array items, .list shape, room + 1 =>
      rw [Shape.depth] at shallow
      exact ArePlain.of_fit fits (Nat.le_of_succ_le_succ shallow)
  | .object members, .object shapes, room + 1 =>
      rw [Shape.depth] at shallow
      exact HavePlain.of_fit fits (Nat.le_of_succ_le_succ shallow)

theorem ArePlain.of_fit {items : List Value} {shape : Shape} {room : Nat}
    (fit : ItemsFit shape items) (shallow : shape.depth ≤ room) : ArePlain room items := by
  match items with
  | [] => trivial
  | item :: rest => exact ⟨IsPlain.of_fits fit.1 shallow, ArePlain.of_fit fit.2 shallow⟩

theorem HavePlain.of_fit {members : List (String × Value)} {shapes : List (String × Shape)}
    {room : Nat} (fit : MembersFit members shapes)
    (shallow : Shape.depthOfMembers shapes ≤ room) : HavePlain room members := by
  match members, shapes with
  | [], _ => trivial
  | (name, value) :: rest, (expected, shape) :: shapes =>
      rw [Shape.depthOfMembers, Nat.max_le] at shallow
      exact ⟨IsPlain.of_fits fit.2.1 shallow.1, HavePlain.of_fit fit.2.2 shallow.2⟩

end

end Value

end PublicSite.Json
