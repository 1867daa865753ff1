import Mathlib.Data.List.Induction
import Mathlib.Data.String.Basic
import PublicSite.Json.Value

/-!
# Members in the order of their names

Inserting a member changes what is found under its name and nothing else, so members
of different names can be inserted in any order.  What `Value.ordered` leaves has the
members of every table strictly in order.
-/

namespace PublicSite.Json

variable {α : Type}

/-! ## Finding and inserting -/

/-- The value of the first member with a name. -/
def memberOf? (name : String) (members : List (String × α)) : Option α :=
  (members.find? fun member => member.1 == name).map Prod.snd

@[simp]
theorem memberOf?_nil (name : String) : memberOf? name ([] : List (String × α)) = none :=
  rfl

@[simp]
theorem memberOf?_cons_self (name : String) (value : α) (rest : List (String × α)) :
    memberOf? name ((name, value) :: rest) = some value := by
  simp [memberOf?]

theorem memberOf?_cons_of_ne {name other : String} (differs : other ≠ name) (value : α)
    (rest : List (String × α)) : memberOf? name ((other, value) :: rest) = memberOf? name rest := by
  simp [memberOf?, differs]

theorem Value.member?_object (name : String) (members : List (String × Value)) :
    (Value.object members).member? name = memberOf? name members :=
  rfl

@[simp]
theorem memberOf?_insertMember_self (name : String) (value : α) (members : List (String × α)) :
    memberOf? name (insertMember name value members) = some value := by
  induction members with
  | nil => simp [insertMember]
  | cons first rest ih =>
      obtain ⟨other, kept⟩ := first
      unfold insertMember
      split_ifs with before same
      · exact memberOf?_cons_self name value _
      · exact memberOf?_cons_self name value _
      · rw [memberOf?_cons_of_ne (Ne.symm same), ih]

theorem memberOf?_insertMember_of_ne {name other : String} (differs : other ≠ name) (value : α)
    (members : List (String × α)) :
    memberOf? name (insertMember other value members) = memberOf? name members := by
  induction members with
  | nil => exact memberOf?_cons_of_ne differs value []
  | cons first rest ih =>
      obtain ⟨third, kept⟩ := first
      unfold insertMember
      split_ifs with before same
      · exact memberOf?_cons_of_ne differs value _
      · subst same
        rw [memberOf?_cons_of_ne differs, memberOf?_cons_of_ne differs]
      · by_cases found : third = name
        · subst found
          rw [memberOf?_cons_self, memberOf?_cons_self]
        · rw [memberOf?_cons_of_ne found, memberOf?_cons_of_ne found, ih]

theorem memberOf?_eq_none_iff {α : Type} {name : String} {members : List (String × α)} :
    memberOf? name members = none ↔ name ∉ members.map Prod.fst := by
  induction members with
  | nil => simp
  | cons first rest ih =>
      obtain ⟨other, kept⟩ := first
      by_cases same : other = name
      · subst same
        simp
      · simp [memberOf?_cons_of_ne same, ih, Ne.symm same]

/-- Nothing is found under a name behind all others. -/
theorem memberOf?_eq_none_of_forall_lt {name : String} {members : List (String × α)}
    (behind : ∀ member ∈ members, member.1 < name) : memberOf? name members = none := by
  rw [memberOf?_eq_none_iff]
  intro isName
  obtain ⟨member, isMember, rfl⟩ := List.mem_map.mp isName
  exact lt_irrefl _ (behind member isMember)

theorem mem_of_memberOf?_eq_some {α : Type} {name : String} {value : α}
    {members : List (String × α)} (found : memberOf? name members = some value) :
    (name, value) ∈ members := by
  induction members with
  | nil => simp at found
  | cons first rest ih =>
      obtain ⟨other, kept⟩ := first
      by_cases same : other = name
      · subst same
        rw [memberOf?_cons_self] at found
        obtain rfl := Option.some.inj found
        exact List.mem_cons_self
      · rw [memberOf?_cons_of_ne same] at found
        exact List.mem_cons_of_mem _ (ih found)

/-- Members of different names may be inserted in either order. -/
theorem insertMember_comm {first second : String} (apart : first ≠ second) (value other : α)
    (members : List (String × α)) :
    insertMember first value (insertMember second other members) =
      insertMember second other (insertMember first value members) := by
  wlog before : first < second generalizing first second value other
  · exact (this apart.symm other value (lt_of_le_of_ne (not_lt.mp before) apart.symm)).symm
  have behind : ¬ second < first := before.asymm
  induction members with
  | nil => simp [insertMember, before, behind, apart.symm]
  | cons head rest ih =>
      obtain ⟨name, kept⟩ := head
      rcases lt_trichotomy name first with less | rfl | more
      · have lessSecond := less.trans before
        simp [insertMember, less.asymm, less.ne', lessSecond.asymm, lessSecond.ne', ih]
      · simp [insertMember, behind, apart.symm]
      · rcases lt_trichotomy name second with less | rfl | behindBoth
        · simp [insertMember, more, less.asymm, less.ne', behind, apart.symm]
        · simp [insertMember, before, behind, apart.symm]
        · simp [insertMember, more, before, behind, behindBoth, apart.symm]

/-- A member that is inserted twice is there as it was inserted last. -/
theorem insertMember_insertMember (name : String) (value first : α)
    (members : List (String × α)) :
    insertMember name value (insertMember name first members) =
      insertMember name value members := by
  induction members with
  | nil => simp [insertMember]
  | cons head rest ih =>
      obtain ⟨other, kept⟩ := head
      rcases lt_trichotomy name other with less | rfl | more
      · simp [insertMember, less]
      · simp [insertMember]
      · simp [insertMember, more.asymm, more.ne', ih]

/-- A member behind all others is put at the end. -/
theorem insertMember_of_forall_lt {name : String} {members : List (String × α)}
    (behind : ∀ member ∈ members, member.1 < name) (value : α) :
    insertMember name value members = members ++ [(name, value)] := by
  induction members with
  | nil => rfl
  | cons first rest ih =>
      obtain ⟨other, kept⟩ := first
      obtain ⟨less, behind⟩ := List.forall_mem_cons.mp behind
      have less : other < name := less
      rw [insertMember, if_neg less.asymm, if_neg less.ne', ih behind, List.cons_append]

theorem mem_insertMember {name : String} {value : α} {members : List (String × α)}
    {member : String × α} (inserted : member ∈ insertMember name value members) :
    member = (name, value) ∨ member ∈ members := by
  induction members with
  | nil => simpa [insertMember] using inserted
  | cons first rest ih =>
      obtain ⟨other, kept⟩ := first
      unfold insertMember at inserted
      split_ifs at inserted
      · exact List.mem_cons.mp inserted
      · exact (List.mem_cons.mp inserted).imp_right (List.mem_cons_of_mem _)
      · rcases List.mem_cons.mp inserted with rfl | later
        · exact Or.inr List.mem_cons_self
        · exact (ih later).imp_right (List.mem_cons_of_mem _)

/-! ## Members in order -/

/-- The names of the members stand strictly in order. -/
def AreSorted (members : List (String × α)) : Prop :=
  members.Pairwise fun first second => first.1 < second.1

theorem AreSorted.insertMember {members : List (String × α)} (sorted : AreSorted members)
    (name : String) (value : α) : AreSorted (insertMember name value members) := by
  induction members with
  | nil => exact List.pairwise_singleton _ _
  | cons first rest ih =>
      obtain ⟨other, kept⟩ := first
      obtain ⟨less, sortedRest⟩ := List.pairwise_cons.mp sorted
      unfold PublicSite.Json.insertMember
      split_ifs with before same
      · exact List.pairwise_cons.mpr
          ⟨List.forall_mem_cons.mpr ⟨before, fun member later => before.trans (less member later)⟩,
            sorted⟩
      · subst same
        exact List.pairwise_cons.mpr ⟨less, sortedRest⟩
      · refine List.pairwise_cons.mpr ⟨fun member later => ?_, ih sortedRest⟩
        rcases mem_insertMember later with rfl | isOld
        · exact lt_of_le_of_ne (not_lt.mp before) (Ne.symm same)
        · exact less member isOld

theorem areSorted_orderMembers (members : List (String × α)) :
    AreSorted (orderMembers members) := by
  induction members using List.reverseRecOn with
  | nil => exact List.Pairwise.nil
  | append_singleton front last ih =>
      rw [orderMembers, List.foldl_append]
      exact ih.insertMember last.1 last.2

theorem mem_of_mem_orderMembers {members : List (String × α)} {member : String × α}
    (kept : member ∈ orderMembers members) : member ∈ members := by
  induction members using List.reverseRecOn with
  | nil => exact kept
  | append_singleton front last ih =>
      rw [orderMembers, List.foldl_append] at kept
      rcases mem_insertMember kept with rfl | isOld
      · simp
      · exact List.mem_append_left _ (ih isOld)

theorem memberOf?_append (name : String) (front back : List (String × α)) :
    memberOf? name (front ++ back) = (memberOf? name front).or (memberOf? name back) := by
  rw [memberOf?, List.find?_append, Option.map_or]
  rfl

/-- Members of different names are found in order as they were before. -/
theorem memberOf?_orderMembers {members : List (String × α)}
    (distinct : (members.map Prod.fst).Nodup) (name : String) :
    memberOf? name (orderMembers members) = memberOf? name members := by
  induction members using List.reverseRecOn with
  | nil => rfl
  | append_singleton front last ih =>
      obtain ⟨other, value⟩ := last
      rw [List.map_append, List.nodup_append] at distinct
      obtain ⟨distinctFront, -, apart⟩ := distinct
      have inserted : orderMembers (front ++ [(other, value)]) =
          insertMember other value (orderMembers front) := List.foldl_append
      rw [inserted, memberOf?_append]
      by_cases same : other = name
      · subst same
        have isNew : memberOf? other front = none := memberOf?_eq_none_iff.mpr fun inFront =>
          apart other inFront other List.mem_cons_self rfl
        rw [memberOf?_insertMember_self, isNew, memberOf?_cons_self, Option.none_or]
      · rw [memberOf?_insertMember_of_ne same, ih distinctFront, memberOf?_cons_of_ne same,
          memberOf?_nil, Option.or_none]

theorem AreSorted.nodup {members : List (String × α)} (sorted : AreSorted members) :
    (members.map Prod.fst).Nodup :=
  (List.pairwise_map.mpr sorted).imp fun less => less.ne

theorem AreSorted.forall_lt {front back : List (String × α)} {name : String} {value : α}
    (sorted : AreSorted (front ++ (name, value) :: back)) :
    ∀ member ∈ front, member.1 < name :=
  fun member inFront => (List.pairwise_append.mp sorted).2.2 member inFront _ List.mem_cons_self

namespace Value

theorem map_fst_orderedMembers (members : List (String × Value)) :
    (orderedMembers members).map Prod.fst = members.map Prod.fst := by
  induction members with
  | nil => rfl
  | cons first rest ih => rw [orderedMembers, List.map_cons, List.map_cons, ih]

theorem memberOf?_orderedMembers (name : String) (members : List (String × Value)) :
    memberOf? name (orderedMembers members) = (memberOf? name members).map ordered := by
  induction members with
  | nil => rfl
  | cons first rest ih =>
      obtain ⟨other, value⟩ := first
      rw [orderedMembers]
      by_cases same : other = name
      · subst same
        rw [memberOf?_cons_self, memberOf?_cons_self, Option.map_some]
      · rw [memberOf?_cons_of_ne same, memberOf?_cons_of_ne same, ih]

mutual

/-- Every table that is reached through tables has its members strictly in order. -/
def HasSortedTables : Value → Prop
  | .object members => AreSorted members ∧ HaveSortedTables members
  | _ => True

/-- `HasSortedTables` of the value of each member. -/
def HaveSortedTables : List (String × Value) → Prop
  | [] => True
  | (_, value) :: rest => value.HasSortedTables ∧ HaveSortedTables rest

end

theorem haveSortedTables_iff {members : List (String × Value)} :
    HaveSortedTables members ↔ ∀ member ∈ members, member.2.HasSortedTables := by
  induction members with
  | nil => simp [HaveSortedTables]
  | cons first rest ih => simp [HaveSortedTables, ih]

theorem haveSortedTables_insertMember {members : List (String × Value)} {name : String}
    {value : Value} (tables : HaveSortedTables members) (sorted : value.HasSortedTables) :
    HaveSortedTables (insertMember name value members) := by
  rw [haveSortedTables_iff] at tables ⊢
  intro member inserted
  rcases mem_insertMember inserted with rfl | isOld
  · exact sorted
  · exact tables member isOld

theorem hasSortedTables_insertMember {members : List (String × Value)} {name : String}
    {value : Value} (tables : (object members).HasSortedTables)
    (sorted : value.HasSortedTables) :
    (object (insertMember name value members)).HasSortedTables :=
  ⟨tables.1.insertMember name value, haveSortedTables_insertMember tables.2 sorted⟩

theorem hasSortedTables_of_memberOf? {members : List (String × Value)}
    (tables : HaveSortedTables members) (name : String) :
    ((memberOf? name members).getD Value.null).HasSortedTables := by
  cases found : memberOf? name members with
  | none => trivial
  | some value =>
      exact haveSortedTables_iff.mp tables _ (mem_of_memberOf?_eq_some found)

mutual

theorem hasSortedTables_ordered (value : Value) : value.ordered.HasSortedTables := by
  cases value with
  | object members =>
      refine ⟨areSorted_orderMembers _, haveSortedTables_iff.mpr fun member kept => ?_⟩
      exact hasSortedTables_of_mem members member (mem_of_mem_orderMembers kept)
  | _ => trivial

theorem hasSortedTables_of_mem (members : List (String × Value)) (member : String × Value)
    (isMember : member ∈ orderedMembers members) : member.2.HasSortedTables := by
  cases members with
  | nil => exact absurd isMember List.not_mem_nil
  | cons first rest =>
      rcases List.mem_cons.mp isMember with rfl | later
      · exact hasSortedTables_ordered first.2
      · exact hasSortedTables_of_mem rest member later

end

end Value

end PublicSite.Json
