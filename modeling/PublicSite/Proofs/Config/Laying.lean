import PublicSite.Proofs.Config.Tree

/-!
# Laying values over a tree

A member of a table laid over another one is laid over the member of its name.  A value
that is no table replaces what is there, so putting it at the end of names is placing
it there.  What is laid and changed keeps the members of its tables in order.
-/

namespace PublicSite.Config

open PublicSite.Json

/-! ## What is found behind a laid table -/

theorem valueOf_eq (name : String) (members : List (String × Value)) :
    valueOf name members = (memberOf? name members).getD .null :=
  rfl

/-- Under a name stands what was laid there, over what stood there before. -/
theorem memberOf?_overlayMembers {members : List (String × Value)}
    (distinct : (members.map Prod.fst).Nodup) (name : String) (there : List (String × Value)) :
    memberOf? name (overlayMembers members there) =
      match memberOf? name members with
      | none => memberOf? name there
      | some value => some (overlay value ((memberOf? name there).getD .null)) := by
  induction members generalizing there with
  | nil => simp [overlayMembers]
  | cons first rest ih =>
      obtain ⟨other, value⟩ := first
      obtain ⟨notBehind, distinct⟩ := List.nodup_cons.mp distinct
      rw [overlayMembers, ih distinct]
      by_cases same : other = name
      · subst same
        rw [memberOf?_eq_none_iff.mpr notBehind, memberOf?_cons_self, memberOf?_insertMember_self,
          valueOf_eq]
      · rw [memberOf?_cons_of_ne same, memberOf?_insertMember_of_ne same]

/-! ## Laying over nothing -/

theorem overlay_of_not_isTable {incoming : Value} (noTable : ¬ IsTable incoming) (there : Value) :
    overlay incoming there = incoming := by
  cases incoming with
  | object members => exact absurd ⟨members, rfl⟩ noTable
  | _ => rfl

mutual

/-- A table is built anew where there is none. -/
theorem overlay_null (value : Value) (sorted : value.HasSortedTables) :
    overlay value .null = value := by
  cases value with
  | object members =>
      exact congrArg Value.object (overlayMembers_append [] members sorted.1 sorted.2)
  | _ => rfl

theorem overlayMembers_append (front members : List (String × Value))
    (sorted : AreSorted (front ++ members)) (tables : Value.HaveSortedTables members) :
    overlayMembers members front = front ++ members := by
  cases members with
  | nil => rw [overlayMembers, List.append_nil]
  | cons first rest =>
      obtain ⟨name, value⟩ := first
      have before := sorted.forall_lt
      rw [overlayMembers, valueOf_eq, memberOf?_eq_none_of_forall_lt before, Option.getD_none,
        overlay_null value tables.1,
        insertMember_of_forall_lt before]
      rw [List.append_cons] at sorted
      rw [overlayMembers_append (front ++ [(name, value)]) rest sorted tables.2, ← List.append_cons]

end

theorem overlay_of_there_not_isTable {value there : Value} (sorted : value.HasSortedTables)
    (noTable : ¬ IsTable there) : overlay value there = value := by
  have nothing : membersOf there = [] := by
    cases there with
    | object members => exact absurd ⟨members, rfl⟩ noTable
    | _ => rfl
  cases value with
  | object members => rw [overlay, nothing]; exact overlay_null _ sorted
  | _ => rfl

/-! ## Tables stay in order -/

theorem hasSortedTables_membersOf {tree : Value} (sorted : tree.HasSortedTables) :
    (Value.object (membersOf tree)).HasSortedTables := by
  cases tree with
  | object members => exact sorted
  | _ => exact ⟨List.Pairwise.nil, trivial⟩

theorem hasSortedTables_of_not_isTable {value : Value} (noTable : ¬ IsTable value) :
    value.HasSortedTables := by
  cases value with
  | object members => exact absurd ⟨members, rfl⟩ noTable
  | _ => trivial

mutual

theorem hasSortedTables_overlay (value there : Value) (sorted : value.HasSortedTables)
    (sortedThere : there.HasSortedTables) : (overlay value there).HasSortedTables := by
  cases value with
  | object members =>
      have membersThere := hasSortedTables_membersOf sortedThere
      exact hasSortedTables_overlayMembers members _ sorted.2 membersThere
  | _ => trivial

theorem hasSortedTables_overlayMembers (members there : List (String × Value))
    (tables : Value.HaveSortedTables members) (sortedThere : (Value.object there).HasSortedTables) :
    (Value.object (overlayMembers members there)).HasSortedTables := by
  cases members with
  | nil => exact sortedThere
  | cons first rest =>
      refine hasSortedTables_overlayMembers rest _ tables.2 ?_
      refine Value.hasSortedTables_insertMember sortedThere ?_
      exact hasSortedTables_overlay first.2 _ tables.1
        (Value.hasSortedTables_of_memberOf? sortedThere.2 first.1)

end

theorem hasSortedTables_changeAt {change : Value → Value}
    (keeps : ∀ there : Value, there.HasSortedTables → (change there).HasSortedTables)
    (steps : List Step) {tree : Value} (sorted : tree.HasSortedTables) :
    (changeAt change steps tree).HasSortedTables := by
  induction steps generalizing tree with
  | nil => exact keeps tree sorted
  | cons step rest ih =>
      cases step with
      | item index => trivial
      | member name =>
          have members := hasSortedTables_membersOf sorted
          exact Value.hasSortedTables_insertMember members
            (ih (Value.hasSortedTables_of_memberOf? members.2 name))

/-! ## Putting at the end of names -/

/-- Putting a value that is no table at the end of names is placing it there. -/
theorem changeAt_members {value : Value} (noTable : ¬ IsTable value) (path : Path) (tree : Value) :
    changeAt (overlay value) (path.map .member) tree = placeAt value path tree := by
  induction path generalizing tree with
  | nil => exact overlay_of_not_isTable noTable tree
  | cons name rest ih =>
      rw [List.map_cons, changeAt, placeAt, ih, valueOf_eq, memberOf?_membersOf]

end PublicSite.Config
