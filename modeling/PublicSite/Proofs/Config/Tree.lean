import Mathlib.Data.List.Infix
import PublicSite.Config.Place
import PublicSite.Proofs.Json.Members

/-!
# Trees of settings

A setting stands at the end of a path of names through tables.  Placing a value at a
path changes what stands at this path, above it only in that tables are made, and
nothing elsewhere.  So settings none of whose paths continues another one may be placed
in any order, and the leaves of the tree are then these settings and every leaf that
was there before and that no setting covers.
-/

namespace PublicSite.Config

open PublicSite.Json

/-- A path of names through tables. -/
abbrev Path := List String

/-! ## Looking and placing -/

/-- What stands at the end of a path. -/
def at? : Path → Value → Option Value
  | [], tree => some tree
  | name :: rest, tree => (tree.member? name).bind (at? rest)

/-- The tree with a value placed at the end of a path, with tables on the way to it. -/
def placeAt (value : Value) : Path → Value → Value
  | [], _ => value
  | name :: rest, tree =>
      .object (insertMember name (placeAt value rest ((tree.member? name).getD .null))
        (membersOf tree))

/-- A value is a table. -/
def IsTable (value : Value) : Prop :=
  ∃ members, value = .object members

instance : DecidablePred IsTable
  | .object members => .isTrue ⟨members, rfl⟩
  | .null | .bool _ | .integer _ | .float _ | .text _ | .array _ => .isFalse (by rintro ⟨_, ⟨⟩⟩)

theorem memberOf?_membersOf (name : String) (tree : Value) :
    memberOf? name (membersOf tree) = tree.member? name := by
  cases tree <;> rfl

theorem at?_null {path : Path} (notEmpty : path ≠ []) : at? path .null = none := by
  cases path with
  | nil => exact absurd rfl notEmpty
  | cons name rest => rfl

/-- Nothing stands behind what is no table. -/
theorem eq_nil_of_at?_eq_some {path : Path} {tree value : Value} (noTable : ¬ IsTable tree)
    (found : at? path tree = some value) : path = [] := by
  cases path with
  | nil => rfl
  | cons name rest =>
      cases tree with
      | object members => exact absurd ⟨members, rfl⟩ noTable
      | _ => exact nomatch found

theorem at?_append (front back : Path) (tree : Value) :
    at? (front ++ back) tree = (at? front tree).bind (at? back) := by
  induction front generalizing tree with
  | nil => rfl
  | cons name rest ih =>
      simp only [List.cons_append, at?]
      cases tree.member? name with
      | none => rfl
      | some inner => exact ih inner

variable {value other : Value} {tree : Value}

@[simp]
theorem at?_placeAt_self (path : Path) (value tree : Value) :
    at? path (placeAt value path tree) = some value := by
  induction path generalizing tree with
  | nil => rfl
  | cons name rest ih =>
      rw [placeAt, at?, Value.member?_object, memberOf?_insertMember_self]
      exact ih _

/-- On the way to what was placed there are tables. -/
theorem at?_placeAt_of_isPrefix {path asked : Path} (isPrefix : asked <+: path)
    (shorter : asked ≠ path) : ∃ inner, at? asked (placeAt value path tree) = some inner ∧
      IsTable inner := by
  induction path generalizing asked tree with
  | nil => exact absurd (List.prefix_nil.mp isPrefix) shorter
  | cons name rest ih =>
      cases asked with
      | nil => exact ⟨_, rfl, _, rfl⟩
      | cons first others =>
          obtain ⟨rfl, isPrefixRest⟩ := List.cons_prefix_cons.mp isPrefix
          rw [placeAt, at?, Value.member?_object, memberOf?_insertMember_self]
          exact ih isPrefixRest fun same => shorter (by rw [same])

/-- Neither of two paths continues the other. -/
def Apart (first second : Path) : Prop :=
  ¬ first <+: second ∧ ¬ second <+: first

instance (first second : Path) : Decidable (Apart first second) :=
  inferInstanceAs (Decidable (¬ _ ∧ ¬ _))

theorem Apart.symm {first second : Path} (apart : Apart first second) : Apart second first :=
  ⟨apart.2, apart.1⟩

theorem apart_cons_iff {name : String} {first second : Path} :
    Apart (name :: first) (name :: second) ↔ Apart first second := by
  simp [Apart, List.cons_prefix_cons]

theorem not_apart_nil (path : Path) : ¬ Apart [] path :=
  fun apart => apart.1 List.nil_prefix

/-- What stands apart from a place stays. -/
theorem at?_placeAt_of_apart {path asked : Path} (apart : Apart path asked) :
    at? asked (placeAt value path tree) = at? asked tree := by
  induction path generalizing asked tree with
  | nil => exact absurd apart (not_apart_nil asked)
  | cons name rest ih =>
      cases asked with
      | nil => exact absurd apart.symm (not_apart_nil _)
      | cons first others =>
          rw [placeAt, at?, Value.member?_object]
          by_cases same : name = first
          · subst same
            have apart := apart_cons_iff.mp apart
            rw [memberOf?_insertMember_self, at?, Option.bind_some, ih apart]
            cases tree.member? name with
            | some inner => rfl
            | none =>
                have notEmpty : others ≠ [] := by
                  rintro rfl
                  exact not_apart_nil _ apart.symm
                exact at?_null notEmpty
          · rw [memberOf?_insertMember_of_ne same, memberOf?_membersOf, at?]

theorem member?_placeAt_cons (name : String) (rest : Path) (value tree : Value) :
    (placeAt value (name :: rest) tree).member? name =
      some (placeAt value rest ((tree.member? name).getD .null)) := by
  rw [placeAt, Value.member?_object, memberOf?_insertMember_self]

theorem member?_placeAt_of_ne {name first : String} (differs : first ≠ name) (rest : Path)
    (value tree : Value) :
    (placeAt value (first :: rest) tree).member? name = tree.member? name := by
  rw [placeAt, Value.member?_object, memberOf?_insertMember_of_ne differs, memberOf?_membersOf]

/-- Values are placed at paths that stand apart in either order. -/
theorem placeAt_comm {first second : Path} (apart : Apart first second) (value other tree : Value) :
    placeAt value first (placeAt other second tree) =
      placeAt other second (placeAt value first tree) := by
  induction first generalizing second tree with
  | nil => exact absurd apart (not_apart_nil second)
  | cons name rest ih =>
      cases second with
      | nil => exact absurd apart.symm (not_apart_nil _)
      | cons otherName others =>
          conv_lhs => rw [placeAt]
          conv_rhs => rw [placeAt]
          by_cases same : name = otherName
          · subst same
            rw [member?_placeAt_cons, member?_placeAt_cons, placeAt, placeAt, membersOf, membersOf,
              insertMember_insertMember, insertMember_insertMember, Option.getD_some,
              Option.getD_some, ih (apart_cons_iff.mp apart)]
          · rw [member?_placeAt_of_ne (Ne.symm same), member?_placeAt_of_ne same, placeAt, placeAt,
              membersOf, membersOf, insertMember_comm same]

/-! ## Several settings -/

/-- A setting: its path and its value. -/
abbrev Setting := Path × Value

/-- The tree with several settings placed one after the other. -/
def placeAll (settings : List Setting) (tree : Value) : Value :=
  settings.foldl (fun tree setting => placeAt setting.2 setting.1 tree) tree

/-- No path is another one's or continues another one. -/
def AreApart (settings : List Setting) : Prop :=
  settings.Pairwise fun first second => Apart first.1 second.1

instance : DecidablePred AreApart :=
  fun settings => inferInstanceAs (Decidable (settings.Pairwise _))

theorem placeAll_append_singleton (settings : List Setting) (last : Setting) (tree : Value) :
    placeAll (settings ++ [last]) tree = placeAt last.2 last.1 (placeAll settings tree) :=
  List.foldl_append

/-- Two settings may be placed in either order. -/
def Swap (first second : Setting) : Prop :=
  ∀ tree, placeAt second.2 second.1 (placeAt first.2 first.1 tree) =
    placeAt first.2 first.1 (placeAt second.2 second.1 tree)

theorem swap_of_apart {first second : Setting} (apart : Apart first.1 second.1) :
    Swap first second :=
  placeAt_comm apart.symm second.2 first.2

/-- Settings apart from one another may be placed in any order. -/
theorem placeAll_perm {settings others : List Setting} (apart : AreApart settings)
    (same : settings.Perm others) (tree : Value) :
    placeAll settings tree = placeAll others tree := by
  have swaps : settings.Pairwise Swap := apart.imp swap_of_apart
  have flipped : settings.Pairwise (flip Swap) := apart.imp fun apart => swap_of_apart apart.symm
  have inEitherOrder := swaps.forall_of_forall_of_flip (fun _ _ _ => rfl) flipped
  refine same.foldl_eq' (fun first isFirst second isSecond tree => ?_) tree
  exact inEitherOrder isFirst isSecond tree

/-- The settings are placed in a tree: each stands where it belongs, tables lead to it,
and what stands apart from all of them is as it was. -/
structure IsPlaced (settings : List Setting) (before after : Value) : Prop where
  there : ∀ setting ∈ settings, at? setting.1 after = some setting.2
  leads : ∀ setting ∈ settings, ∀ path, path <+: setting.1 → path ≠ setting.1 →
    ∃ inner, at? path after = some inner ∧ IsTable inner
  kept : ∀ path, (∀ setting ∈ settings, Apart setting.1 path) → at? path after = at? path before

theorem IsPlaced.placeAt {settings : List Setting} {before after : Value} {last : Setting}
    (placed : IsPlaced settings before after)
    (apart : ∀ setting ∈ settings, Apart setting.1 last.1) :
    IsPlaced (settings ++ [last]) before (placeAt last.2 last.1 after) := by
  constructor
  · simp only [List.forall_mem_append, List.forall_mem_singleton]
    refine ⟨fun setting member => ?_, at?_placeAt_self _ _ _⟩
    rw [at?_placeAt_of_apart (apart setting member).symm, placed.there setting member]
  · simp only [List.forall_mem_append, List.forall_mem_singleton]
    refine ⟨fun setting member path isPrefix shorter => ?_,
      fun path isPrefix shorter => at?_placeAt_of_isPrefix isPrefix shorter⟩
    obtain ⟨notBehind, notBefore⟩ := apart setting member
    by_cases above : path <+: last.1
    · have other : path ≠ last.1 := by
        rintro rfl
        exact notBefore isPrefix
      exact at?_placeAt_of_isPrefix above other
    · have apartLast : Apart last.1 path := ⟨fun below => notBefore (below.trans isPrefix), above⟩
      rw [at?_placeAt_of_apart apartLast]
      exact placed.leads setting member path isPrefix shorter
  · intro path apartAll
    obtain ⟨apartSettings, apartLast⟩ := List.forall_mem_append.mp apartAll
    rw [at?_placeAt_of_apart (apartLast last (List.mem_singleton_self last)),
      placed.kept path apartSettings]

theorem isPlaced_placeAll {settings : List Setting} (apart : AreApart settings) (tree : Value) :
    IsPlaced settings tree (placeAll settings tree) := by
  induction settings using List.reverseRecOn with
  | nil => exact ⟨by simp, by simp, fun _ _ => rfl⟩
  | append_singleton front last ih =>
      obtain ⟨apartFront, -, apartLast⟩ := List.pairwise_append.mp apart
      rw [placeAll_append_singleton]
      exact (ih apartFront).placeAt fun setting member =>
        apartLast setting member last (List.mem_singleton_self last)

/-! ## Leaves -/

/-- A leaf of a tree: what stands at the end of a path and is no table. -/
def IsLeafAt (path : Path) (value tree : Value) : Prop :=
  at? path tree = some value ∧ ¬ IsTable value

/-- The settings fit a tree: only tables stand on the way to their places. -/
def Fit (settings : List Setting) (tree : Value) : Prop :=
  ∀ setting ∈ settings, ∀ path inner, path <+: setting.1 → path ≠ setting.1 →
    at? path tree = some inner → IsTable inner

instance (settings : List Setting) (tree : Value) : Decidable (Fit settings tree) :=
  decidable_of_iff
    (∀ setting ∈ settings, ∀ path ∈ setting.1.inits, path ≠ setting.1 →
      ∀ inner ∈ at? path tree, IsTable inner)
    ⟨fun fits setting member path inner isPrefix shorter found =>
        fits setting member path ((List.mem_inits path setting.1).mpr isPrefix) shorter inner found,
      fun fit setting member path isInit shorter inner found =>
        fit setting member path inner ((List.mem_inits path setting.1).mp isInit) shorter found⟩

/-- The leaves are the settings and what was a leaf before and is covered by none. -/
theorem IsPlaced.isLeafAt_iff {settings : List Setting} {before after : Value}
    (placed : IsPlaced settings before after) (fit : Fit settings before)
    (plain : ∀ setting ∈ settings, ¬ IsTable setting.2) (path : Path) (value : Value) :
    IsLeafAt path value after ↔ (path, value) ∈ settings ∨
      (IsLeafAt path value before ∧ ∀ setting ∈ settings, ¬ setting.1 <+: path) := by
  constructor
  · rintro ⟨found, isLeaf⟩
    by_cases covered : ∃ setting ∈ settings, setting.1 <+: path
    · obtain ⟨setting, member, back, rfl⟩ := covered
      rw [at?_append, placed.there setting member, Option.bind_some] at found
      obtain rfl := eq_nil_of_at?_eq_some (plain setting member) found
      obtain rfl := Option.some.inj found
      rw [List.append_nil]
      exact Or.inl member
    · have uncovered : ∀ setting ∈ settings, ¬ setting.1 <+: path := by simpa using covered
      have apart : ∀ setting ∈ settings, Apart setting.1 path := by
        refine fun setting member => ⟨uncovered setting member, fun above => isLeaf ?_⟩
        have shorter : path ≠ setting.1 := by
          rintro rfl
          exact uncovered setting member List.prefix_rfl
        obtain ⟨inner, there, isTable⟩ := placed.leads setting member path above shorter
        rwa [Option.some.inj (found.symm.trans there)]
      exact Or.inr ⟨⟨(placed.kept path apart).symm.trans found, isLeaf⟩, uncovered⟩
  · rintro (member | ⟨⟨found, isLeaf⟩, uncovered⟩)
    · exact ⟨placed.there _ member, plain _ member⟩
    · have apart : ∀ setting ∈ settings, Apart setting.1 path := by
        refine fun setting member => ⟨uncovered setting member, fun above => isLeaf ?_⟩
        have shorter : path ≠ setting.1 := by
          rintro rfl
          exact uncovered setting member List.prefix_rfl
        exact fit setting member path value above shorter found
      exact ⟨(placed.kept path apart).trans found, isLeaf⟩

end PublicSite.Config
