import PublicSite.Config.Layers
import PublicSite.Proofs.Config.Laying

/-!
# Keys of a file

A key of a file may be written as a path.  When the keys of a file lead through tables to
places that stand apart, each value stands at the place that its key names, and the order in
which the keys are gone through says nothing.  A file whose keys are single names is such a
file and is its own tree.
-/

namespace PublicSite.Config

open PublicSite.Json

/-! ## Laying a value where no table stands -/

theorem not_isTable_null : ¬ IsTable .null := by
  rintro ⟨_, ⟨⟩⟩

/-- A value is placed at the end of names when nothing stands there, or no table. -/
theorem changeAt_members_of_free {value : Value} (sorted : value.HasSortedTables) {path : Path}
    {tree : Value} (free : ∀ inner, at? path tree = some inner → ¬ IsTable inner) :
    changeAt (overlay value) (path.map .member) tree = placeAt value path tree := by
  induction path generalizing tree with
  | nil => exact overlay_of_there_not_isTable sorted (free tree rfl)
  | cons name rest ih =>
      have freeInside : ∀ inner, at? rest ((tree.member? name).getD .null) = some inner →
          ¬ IsTable inner := by
        intro inner found
        cases there : tree.member? name with
        | some member =>
            rw [there, Option.getD_some] at found
            exact free inner (by rw [at?, there, Option.bind_some, found])
        | none =>
            rw [there, Option.getD_none] at found
            obtain rfl := eq_nil_of_at?_eq_some not_isTable_null found
            obtain rfl := Option.some.inj found
            exact not_isTable_null
      rw [List.map_cons, changeAt, placeAt, valueOf_eq, memberOf?_membersOf, ih freeInside]

/-! ## Keys that stand apart -/

variable {settings : List (String × Value)}

/-- The names on the way to the place of a key. -/
def keyPath (key : String) : Path :=
  (place key).filterMap fun
    | .member name => some name
    | .item _ => none

/-- The settings of a file, at the paths of their keys. -/
def keyed (settings : List (String × Value)) : List Setting :=
  settings.map fun setting => (keyPath setting.1, setting.2)

/-- The keys lead through tables to places that stand apart. -/
structure HasApartKeys (settings : List (String × Value)) : Prop where
  names : ∀ setting ∈ settings, place setting.1 = (keyPath setting.1).map .member
  apart : AreApart (keyed settings)

instance (settings : List (String × Value)) : Decidable (HasApartKeys settings) :=
  decidable_of_iff ((∀ setting ∈ settings, place setting.1 = (keyPath setting.1).map .member) ∧
      AreApart (keyed settings))
    ⟨fun ⟨names, apart⟩ => ⟨names, apart⟩, fun ⟨names, apart⟩ => ⟨names, apart⟩⟩

theorem place_ne_nil (key : String) : place key ≠ [] := by
  unfold place
  dsimp only
  split <;> exact List.cons_ne_nil _ _

theorem HasApartKeys.keyPath_ne_nil (keys : HasApartKeys settings) :
    ∀ setting ∈ keyed settings, setting.1 ≠ [] := by
  intro setting member empty
  obtain ⟨source, isSource, rfl⟩ := List.mem_map.mp member
  have isPlace := keys.names source isSource
  rw [show keyPath source.1 = [] from empty] at isPlace
  exact place_ne_nil _ isPlace

/-- Each value of the file is placed at the path of its key. -/
theorem HasApartKeys.layered_eq (keys : HasApartKeys settings)
    (tables : Value.HaveSortedTables settings) :
    layered settings = placeAll (keyed settings) (.object []) := by
  induction settings using List.reverseRecOn with
  | nil => rfl
  | append_singleton front last ih =>
      obtain ⟨namesFront, namesLast⟩ := List.forall_mem_append.mp keys.names
      have paths : keyed (front ++ [last]) = keyed front ++ [(keyPath last.1, last.2)] :=
        List.map_append
      obtain ⟨apartFront, -, apartLast⟩ := List.pairwise_append.mp (paths ▸ keys.apart)
      obtain ⟨tablesFront, tablesLast⟩ :=
        List.forall_mem_append.mp (Value.haveSortedTables_iff.mp tables)
      have frontTree := ih ⟨namesFront, apartFront⟩ (Value.haveSortedTables_iff.mpr tablesFront)
      have lastMember : (keyPath last.1, last.2) ∈ keyed (front ++ [last]) := by
        rw [paths]
        exact List.mem_append_right _ (List.mem_singleton_self _)
      have notEmpty := keys.keyPath_ne_nil _ lastMember
      have nothing : at? (keyPath last.1) (placeAll (keyed front) (.object [])) = none := by
        rw [(isPlaced_placeAll apartFront _).kept _ fun setting member =>
          apartLast setting member _ (List.mem_singleton_self _)]
        obtain ⟨name, rest, path⟩ := List.exists_cons_of_ne_nil notEmpty
        rw [show keyPath last.1 = name :: rest from path]
        rfl
      rw [layered, List.foldl_append, ← layered, frontTree, paths, placeAll_append_singleton]
      change changeAt (overlay last.2) (place last.1) _ = _
      rw [namesLast last (List.mem_singleton_self last)]
      refine changeAt_members_of_free (tablesLast last (List.mem_singleton_self last)) ?_
      simp [nothing]

/-- Keys that stand apart may be gone through in any order. -/
theorem HasApartKeys.layered_perm (keys : HasApartKeys settings)
    (tables : Value.HaveSortedTables settings) {others : List (String × Value)}
    (same : others.Perm settings) : layered others = layered settings := by
  have samePlaces : (keyed others).Perm (keyed settings) := same.map _
  have apart : AreApart (keyed others) :=
    (samePlaces.pairwise_iff Apart.symm).mpr keys.apart
  have otherKeys : HasApartKeys others :=
    ⟨fun setting member => keys.names setting (same.mem_iff.mp member), apart⟩
  have otherTables : Value.HaveSortedTables others :=
    Value.haveSortedTables_iff.mpr fun setting member =>
      Value.haveSortedTables_iff.mp tables setting (same.mem_iff.mp member)
  rw [otherKeys.layered_eq otherTables, keys.layered_eq tables, placeAll_perm apart samePlaces]

/-! ## Keys of one name -/

/-- A key of one name, which leads to the member of this name. -/
def IsPlain (key : String) : Prop :=
  place key = [.member key]

instance : DecidablePred IsPlain :=
  fun key => inferInstanceAs (Decidable (place key = _))

theorem IsPlain.keyPath_eq {key : String} (plain : IsPlain key) : keyPath key = [key] := by
  rw [keyPath, plain]
  rfl

/-- Different names stand apart. -/
theorem hasApartKeys_of_isPlain (distinct : (settings.map Prod.fst).Nodup)
    (plain : ∀ setting ∈ settings, IsPlain setting.1) : HasApartKeys settings where
  names setting member := by
    rw [(plain setting member).keyPath_eq]
    exact plain setting member
  apart := by
    rw [AreApart, keyed, List.pairwise_map]
    rw [List.Nodup, List.pairwise_map] at distinct
    refine distinct.imp_of_mem fun first second differs => ?_
    rw [(plain _ first).keyPath_eq, (plain _ second).keyPath_eq]
    simp [Apart, differs, Ne.symm differs]

/-- Settings under plain keys are their own tree. -/
theorem layered_of_isPlain (distinct : (settings.map Prod.fst).Nodup)
    (tables : Value.HaveSortedTables settings)
    (plain : ∀ setting ∈ settings, IsPlain setting.1) :
    layered settings = .object (orderMembers settings) := by
  rw [(hasApartKeys_of_isPlain distinct plain).layered_eq tables]
  clear distinct tables
  induction settings using List.reverseRecOn with
  | nil => rfl
  | append_singleton front last ih =>
      obtain ⟨plainFront, plainLast⟩ := List.forall_mem_append.mp plain
      have lastPath := (plainLast last (List.mem_singleton_self last)).keyPath_eq
      have paths : keyed (front ++ [last]) = keyed front ++ [([last.1], last.2)] := by
        rw [keyed, List.map_append, List.map_singleton, lastPath, keyed]
      have ordered : orderMembers (front ++ [last]) =
          insertMember last.1 last.2 (orderMembers front) := List.foldl_append
      rw [paths, placeAll_append_singleton, ih plainFront, ordered]
      rfl

end PublicSite.Config
