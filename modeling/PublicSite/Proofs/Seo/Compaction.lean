import Mathlib.Data.List.Basic
import PublicSite.Seo.Schema

/-!
# What is left of structured data

Dropping what is empty keeps every scalar that says something, in order and under the
same names, and it keeps nothing else: nothing that is left is empty, at any depth.  A
value is left as it is exactly when nothing in it is empty, so dropping twice is dropping
once.
-/

namespace PublicSite.Json.Value

open PublicSite.Text

/-! ## Values within a value -/

theorem sizeOf_item_lt {items : List Value} {item : Value} (isItem : item ∈ items) :
    sizeOf item < sizeOf (array items) := by
  have smaller := List.sizeOf_lt_of_mem isItem
  rw [array.sizeOf_spec]
  omega

theorem sizeOf_member_lt {members : List (String × Value)} {member : String × Value}
    (isMember : member ∈ members) : sizeOf member.2 < sizeOf (object members) := by
  have smaller := List.sizeOf_lt_of_mem isMember
  have within : sizeOf member = 1 + sizeOf member.1 + sizeOf member.2 := Prod.mk.sizeOf_spec _ _
  rw [object.sizeOf_spec]
  omega

/-- What is shown of an array or an object from all that stands in it is shown of every
value. -/
@[elab_as_elim]
theorem inductionOn {motive : Value → Prop} (null : motive .null)
    (bool : ∀ value, motive (.bool value)) (integer : ∀ value, motive (.integer value))
    (float : ∀ value, motive (.float value)) (text : ∀ value, motive (.text value))
    (array : ∀ items, (∀ item ∈ items, motive item) → motive (.array items))
    (object : ∀ members : List (String × Value), (∀ member ∈ members, motive member.2) →
      motive (.object members)) (value : Value) : motive value :=
  match value with
  | .null => null
  | .bool value => bool value
  | .integer value => integer value
  | .float value => float value
  | .text value => text value
  | .array items => array items fun item _ =>
      inductionOn null bool integer float text array object item
  | .object members => object members fun member _ =>
      inductionOn null bool integer float text array object member.2
termination_by sizeOf value
decreasing_by
  · exact sizeOf_item_lt ‹item ∈ items›
  · exact sizeOf_member_lt ‹member ∈ members›

/-- A value stands in another one, at any depth.  Every value stands in itself. -/
inductive IsPart (part : Value) : Value → Prop where
  | whole : IsPart part part
  | item {items : List Value} {item : Value} (isItem : item ∈ items) (within : IsPart part item) :
      IsPart part (.array items)
  | member {members : List (String × Value)} {member : String × Value}
      (isMember : member ∈ members) (within : IsPart part member.2) : IsPart part (.object members)

/-- The value is null, a blank text, or an array or object that holds nothing. -/
inductive IsVoid : Value → Prop where
  | null : IsVoid .null
  | text {value : String} (blank : isBlank value.toList = true) : IsVoid (.text value)
  | array : IsVoid (.array [])
  | object : IsVoid (.object [])

/-- Nothing that stands in the value is void, the value itself included. -/
def IsDense (value : Value) : Prop :=
  ∀ part, IsPart part value → ¬ part.IsVoid

theorem isDense_text_iff {value : String} :
    (text value).IsDense ↔ isBlank value.toList = false := by
  constructor
  · intro dense
    exact Bool.eq_false_iff.mpr fun blank => dense _ .whole (.text blank)
  · intro notBlank part isPart isVoid
    cases isPart
    cases isVoid with
    | text blank => exact absurd blank (Bool.eq_false_iff.mp notBlank)

theorem isDense_array_iff {items : List Value} :
    (array items).IsDense ↔ items ≠ [] ∧ ∀ item ∈ items, item.IsDense := by
  constructor
  · intro dense
    constructor
    · rintro rfl
      exact dense _ .whole .array
    · exact fun item isItem part within => dense part (.item isItem within)
  · rintro ⟨notEmpty, denseItems⟩ part isPart isVoid
    cases isPart with
    | whole =>
        cases isVoid
        exact notEmpty rfl
    | item isItem within => exact denseItems _ isItem part within isVoid

theorem isDense_object_iff {members : List (String × Value)} :
    (object members).IsDense ↔ members ≠ [] ∧ ∀ member ∈ members, member.2.IsDense := by
  constructor
  · intro dense
    constructor
    · rintro rfl
      exact dense _ .whole .object
    · exact fun member isMember part within => dense part (.member isMember within)
  · rintro ⟨notEmpty, denseMembers⟩ part isPart isVoid
    cases isPart with
    | whole =>
        cases isVoid
        exact notEmpty rfl
    | member isMember within => exact denseMembers _ isMember part within isVoid

/-! ## Leaves -/

/-- Leaves with one more name in front of theirs. -/
def behind (name : String) (leaves : List (List String × Value)) : List (List String × Value) :=
  leaves.map fun leaf => (name :: leaf.1, leaf.2)

mutual

/-- The scalars of a value that say something, in order, each with the names of the members
on the way to it. -/
def leaves : Value → List (List String × Value)
  | .null => []
  | .text value => if isBlank value.toList then [] else [([], .text value)]
  | .array items => leavesOfItems items
  | .object members => leavesOfMembers members
  | value => [([], value)]

/-- `leaves` of each item. -/
def leavesOfItems : List Value → List (List String × Value)
  | [] => []
  | item :: rest => item.leaves ++ leavesOfItems rest

/-- `leaves` of the value of each member, behind its name. -/
def leavesOfMembers : List (String × Value) → List (List String × Value)
  | [] => []
  | (name, value) :: rest => behind name value.leaves ++ leavesOfMembers rest

end

theorem leaves_array (items : List Value) : (array items).leaves = items.flatMap leaves := by
  rw [leaves]
  induction items with
  | nil => rfl
  | cons item rest ih => rw [leavesOfItems, ih, List.flatMap_cons]

theorem leaves_object (members : List (String × Value)) :
    (object members).leaves = members.flatMap fun member => behind member.1 member.2.leaves := by
  rw [leaves]
  induction members with
  | nil => rfl
  | cons member rest ih => rw [leavesOfMembers, ih, List.flatMap_cons]

/-- A value in which nothing is void says something. -/
theorem leaves_ne_nil_of_isDense {value : Value} (dense : value.IsDense) : value.leaves ≠ [] := by
  induction value using inductionOn with
  | null => exact absurd IsVoid.null (dense _ .whole)
  | bool value | integer value | float value => exact List.cons_ne_nil _ _
  | text value => simp [leaves, isDense_text_iff.mp dense]
  | array items ih =>
      obtain ⟨notEmpty, denseItems⟩ := isDense_array_iff.mp dense
      obtain ⟨item, isItem⟩ := List.exists_mem_of_ne_nil items notEmpty
      rw [leaves_array, Ne, List.flatMap_eq_nil_iff]
      exact fun silent => ih item isItem (denseItems item isItem) (silent item isItem)
  | object members ih =>
      obtain ⟨notEmpty, denseMembers⟩ := isDense_object_iff.mp dense
      obtain ⟨member, isMember⟩ := List.exists_mem_of_ne_nil members notEmpty
      rw [leaves_object, Ne, List.flatMap_eq_nil_iff]
      intro silent
      exact ih member isMember (denseMembers member isMember)
        (List.map_eq_nil_iff.mp (silent member isMember))

end PublicSite.Json.Value

namespace PublicSite.Seo

open PublicSite.Text PublicSite.Json

/-! ## Dropping what is void -/

/-- A member with what is left of its value. -/
def compactMember (member : String × Value) : Option (String × Value) :=
  (compact member.2).map (member.1, ·)

theorem compactItems_eq (items : List Value) : compactItems items = items.filterMap compact := by
  induction items with
  | nil => rfl
  | cons item rest ih =>
      rw [compactItems, List.filterMap_cons, ih]
      cases compact item <;> rfl

theorem compactMembers_eq (members : List (String × Value)) :
    compactMembers members = members.filterMap compactMember := by
  induction members with
  | nil => rfl
  | cons member rest ih =>
      obtain ⟨name, value⟩ := member
      rw [compactMembers, List.filterMap_cons, compactMember, ih]
      cases compact value <;> rfl

theorem compact_array (items : List Value) :
    compact (.array items) =
      if items.filterMap compact = [] then none else some (.array (items.filterMap compact)) := by
  rw [compact, compactItems_eq]
  cases items.filterMap compact <;> rfl

theorem compact_object (members : List (String × Value)) :
    compact (.object members) =
      if members.filterMap compactMember = [] then none
      else some (.object (members.filterMap compactMember)) := by
  rw [compact, compactMembers_eq]
  cases members.filterMap compactMember <;> rfl

/-- Nothing void is left. -/
theorem isDense_of_compact {value kept : Value} (left : compact value = some kept) :
    kept.IsDense := by
  induction value using Value.inductionOn generalizing kept with
  | null => exact nomatch left
  | bool value | integer value | float value =>
      obtain rfl := Option.some.inj left
      rintro part ⟨⟩ ⟨⟩
  | text value =>
      rw [compact] at left
      split at left
      · exact nomatch left
      · rename_i notBlank
        obtain rfl := Option.some.inj left
        exact Value.isDense_text_iff.mpr (Bool.eq_false_iff.mpr notBlank)
  | array items ih =>
      rw [compact_array] at left
      split at left
      · exact nomatch left
      · rename_i notEmpty
        obtain rfl := Option.some.inj left
        refine Value.isDense_array_iff.mpr ⟨notEmpty, fun item isKept => ?_⟩
        obtain ⟨source, isItem, leftItem⟩ := List.mem_filterMap.mp isKept
        exact ih source isItem leftItem
  | object members ih =>
      rw [compact_object] at left
      split at left
      · exact nomatch left
      · rename_i notEmpty
        obtain rfl := Option.some.inj left
        refine Value.isDense_object_iff.mpr ⟨notEmpty, fun member isKept => ?_⟩
        obtain ⟨source, isMember, leftMember⟩ := List.mem_filterMap.mp isKept
        obtain ⟨inner, leftInner, rfl⟩ := Option.map_eq_some_iff.mp leftMember
        exact ih source isMember leftInner

/-- A value in which nothing is void is left as it is. -/
theorem compact_of_isDense {value : Value} (dense : value.IsDense) :
    compact value = some value := by
  induction value using Value.inductionOn with
  | null => exact absurd Value.IsVoid.null (dense _ .whole)
  | bool value | integer value | float value => rfl
  | text value => simp [compact, Value.isDense_text_iff.mp dense]
  | array items ih =>
      obtain ⟨notEmpty, denseItems⟩ := Value.isDense_array_iff.mp dense
      have same : items.filterMap compact = items.filterMap some :=
        List.filterMap_congr fun item isItem => ih item isItem (denseItems item isItem)
      rw [compact_array, same, List.filterMap_some, if_neg notEmpty]
  | object members ih =>
      obtain ⟨notEmpty, denseMembers⟩ := Value.isDense_object_iff.mp dense
      have same : members.filterMap compactMember = members.filterMap some :=
        List.filterMap_congr fun member isMember => by
          rw [compactMember, ih member isMember (denseMembers member isMember)]
          rfl
      rw [compact_object, same, List.filterMap_some, if_neg notEmpty]

/-- Only such a value is left as it is. -/
theorem compact_eq_self_iff {value : Value} : compact value = some value ↔ value.IsDense :=
  ⟨isDense_of_compact, compact_of_isDense⟩

/-- The leaves of what is left are those that were there. -/
theorem leaves_compact (value : Value) :
    (compact value).toList.flatMap Value.leaves = value.leaves := by
  induction value using Value.inductionOn with
  | null => rfl
  | bool value | integer value | float value => rfl
  | text value =>
      rw [compact, Value.leaves]
      split
      · rfl
      · rename_i notBlank
        simp [Value.leaves, notBlank]
  | array items ih =>
      have kept : (items.filterMap compact).flatMap Value.leaves = (Value.array items).leaves := by
        rw [List.filterMap_eq_flatMap_toList, List.flatMap_assoc, Value.leaves_array]
        exact List.flatMap_congr ih
      rw [compact_array, ← kept]
      split
      · rename_i nothing
        rw [nothing]
        rfl
      · simp [Value.leaves_array]
  | object members ih =>
      have kept : (members.filterMap compactMember).flatMap
            (fun member => Value.behind member.1 member.2.leaves) =
          (Value.object members).leaves := by
        rw [List.filterMap_eq_flatMap_toList, List.flatMap_assoc, Value.leaves_object]
        refine List.flatMap_congr fun member isMember => ?_
        rw [← ih member isMember, compactMember]
        cases compact member.2 <;> simp [Value.behind]
      rw [compact_object, ← kept]
      split
      · rename_i nothing
        rw [nothing]
        rfl
      · simp [Value.leaves_object]

/-- Nothing is left exactly when nothing is said.  What is left says the same under the
same names, holds nothing void, and is left as it is. -/
theorem compact_keeps_leaves (value : Value) :
    (compact value = none ↔ value.leaves = []) ∧
      ∀ kept, compact value = some kept →
        kept.leaves = value.leaves ∧ kept.IsDense ∧ compact kept = some kept := by
  have same := leaves_compact value
  cases left : compact value with
  | none =>
      rw [left] at same
      exact ⟨iff_of_true rfl same.symm, fun kept isLeft => nomatch isLeft⟩
  | some kept =>
      have dense := isDense_of_compact left
      rw [left, Option.toList_some, List.flatMap_singleton] at same
      have said : value.leaves ≠ [] := same ▸ Value.leaves_ne_nil_of_isDense dense
      refine ⟨iff_of_false (fun nothing => nomatch nothing) said, ?_⟩
      intro other isLeft
      obtain rfl := Option.some.inj isLeft
      exact ⟨same, dense, compact_eq_self_iff.mpr dense⟩

/-- An object that a list empties goes with it, and a zero stays. -/
theorem compact_keeps_leaves_zero :
    let value : Value := .object [
      ("a", .object [("b", .array [.null, .array [.text " \u2003"]])]),
      ("c", .array [.text "", .object [("d", .integer 0), ("e", .object [])], .bool false])]
    ∃ kept, compact value = some kept ∧
      kept.leaves = [(["c", "d"], .integer 0), (["c"], .bool false)] ∧ kept.IsDense ∧
      compact kept = some kept := by
  intro value
  have left : compact value =
      some (.object [("c", .array [.object [("d", .integer 0)], .bool false])]) := by
    rfl
  obtain ⟨same, dense, again⟩ := (compact_keeps_leaves value).2 _ left
  exact ⟨_, left, same, dense, again⟩

end PublicSite.Seo
