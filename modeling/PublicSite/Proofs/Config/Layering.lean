import Mathlib.Data.List.Permutation
import PublicSite.Proofs.Config.Defaults
import PublicSite.Proofs.Config.Keys
import PublicSite.Proofs.Config.Names
import PublicSite.Proofs.Config.Values

/-!
# Loading in layers

What is loaded is read from the tree of the file with the value of each variable that
counts placed at the path of its name.  A variable replaces one leaf or adds one, and
leaves its neighbours alone; the order of the variables says nothing, and neither do
variables that do not count.
-/

namespace PublicSite.Config

open PublicSite.Json PublicSite.Text

/-! ## The settings of the environment -/

/-- The settings that variables make: the paths of those that count, and their values. -/
def named (environment : List (String × String)) : List Setting :=
  environment.filterMap fun (name, text) =>
    (variablePath? name).map fun path => (path, variableValue text)

/-- A variable counts: its name begins with the fixed word, in letters of either case. -/
def counts (entry : String × String) : Bool :=
  variablePrefix.toList.isPrefixOf (smallName entry.1)

theorem isSome_variablePath? (entry : String × String) :
    (variablePath? entry.1).isSome = counts entry := by
  simp only [variablePath?, counts]
  cases variablePrefix.toList.isPrefixOf (smallName entry.1) <;> rfl

theorem named_filter_counts (environment : List (String × String)) :
    named (environment.filter counts) = named environment := by
  rw [named, List.filterMap_filter]
  refine List.filterMap_congr fun entry _ => ?_
  obtain ⟨name, text⟩ := entry
  rw [← isSome_variablePath?]
  cases path : variablePath? name <;> simp [path]

theorem overrides_eq_map_named (environment : List (String × String)) :
    overrides environment =
      (named environment).map fun setting => (keyOf setting.1, setting.2) := by
  rw [overrides, named, List.map_filterMap]
  refine List.filterMap_congr fun ⟨name, text⟩ _ => ?_
  simp only [variableKey?_eq, Option.map_map]
  rfl

/-- A setting of the environment is the path of a name and what the text beside it stands for. -/
theorem mem_named_iff {environment : List (String × String)} {setting : Setting} :
    setting ∈ named environment ↔ ∃ name text, (name, text) ∈ environment ∧
      variablePath? name = some setting.1 ∧ StandsFor text setting.2 := by
  obtain ⟨path, value⟩ := setting
  simp only [named, List.mem_filterMap, Prod.exists, Option.map_eq_some_iff, standsFor_iff]
  constructor
  · rintro ⟨name, text, member, _, isPath, same⟩
    obtain ⟨rfl, rfl⟩ := Prod.mk.inj same
    exact ⟨name, text, member, isPath, rfl⟩
  · rintro ⟨name, text, member, isPath, rfl⟩
    exact ⟨name, text, member, path, isPath, rfl⟩

/-- The path of a setting of the environment has a name, and its value is no table. -/
theorem of_mem_named {environment : List (String × String)} {setting : Setting}
    (member : setting ∈ named environment) : setting.1 ≠ [] ∧ ¬ IsTable setting.2 := by
  obtain ⟨name, text, -, isPath, stands⟩ := mem_named_iff.mp member
  refine ⟨fun empty => ?_, ?_⟩
  · simp only [variablePath?] at isPath
    split_ifs at isPath
    rw [← Option.some.inj isPath] at empty
    exact sections_ne_nil _ (List.map_eq_nil_iff.mp empty)
  · rintro ⟨members, isTable⟩
    rw [isTable] at stands
    cases stands

/-! ## The tree of the layers -/

variable {settings : List (String × Value)} {environment : List (String × String)}

/-- Each variable is placed over the tree of the file. -/
theorem layered_append_overrides
    (names : ∀ setting ∈ named environment, ∀ name ∈ setting.1, IsName name) :
    layered (settings ++ overrides environment) =
      placeAll (named environment) (layered settings) := by
  rw [layered, List.foldl_append, overrides_eq_map_named, List.foldl_map, placeAll]
  refine List.foldl_ext _ _ _ fun tree setting member => ?_
  obtain ⟨notEmpty, noTable⟩ := of_mem_named member
  rw [put, place_keyOf notEmpty (names setting member), changeAt_members noTable]

theorem hasSortedTables_layered (sorted : ∀ setting ∈ settings, setting.2.HasSortedTables) :
    (layered settings).HasSortedTables := by
  induction settings using List.reverseRecOn with
  | nil => exact ⟨List.Pairwise.nil, trivial⟩
  | append_singleton front last ih =>
      obtain ⟨sortedFront, sortedLast⟩ := List.forall_mem_append.mp sorted
      rw [layered, List.foldl_append]
      refine hasSortedTables_changeAt (fun there => ?_) _ (ih sortedFront)
      exact hasSortedTables_overlay last.2 there (sortedLast last (List.mem_singleton_self last))

/-! ## Loading -/

/-- What is loaded from a tree of settings. -/
def loaded (tree : Value) : Except (Failure LoadCause) Config :=
  match ofValue? tree with
  | none => inContext "Failed to deserialize config" (failWith .misshapen)
  | some config => .ok config

/-- A file holds settings: its reader gives them, each key once, and the tables inside them
have the order of their names, since they have none of their own. -/
structure File.Holds (file : File) (read : FileReader) (settings : List (String × Value)) :
    Prop where
  read_eq : read file = .ok settings
  distinct : (settings.map Prod.fst).Nodup
  tables : Value.HaveSortedTables settings

theorem loadBy_eq_loaded_layered {read : FileReader} {file : File}
    (given : read file = .ok settings) (environment : List (String × String)) :
    loadBy read (some file) environment =
      loaded (layered (settings ++ overrides environment)) := by
  simp only [loadBy, given]
  rfl

theorem hasSortedTables_of_asTable {value? : Option Value} (table : asTable value? = .ok settings) :
    (Value.object settings).HasSortedTables := by
  cases value? with
  | none => exact nomatch table
  | some value =>
      have inOrder := value.hasSortedTables_ordered
      simp only [asTable] at table
      split at table
      case h_1 members same =>
        obtain rfl := Except.ok.inj table
        rwa [same] at inOrder
      case h_2 => exact nomatch table

/-- What the reader of TOML and JSON gives is a table. -/
theorem File.holds_of_read {file : File} (given : file.read = .ok settings) :
    file.Holds File.read settings := by
  have inOrder : (Value.object settings).HasSortedTables := by
    have table := given
    simp only [File.read] at table
    split at table
    case h_1 | h_2 => exact hasSortedTables_of_asTable table
    case h_3 => exact nomatch table
  exact ⟨given, inOrder.1.nodup, inOrder.2⟩

/-- The variables that count suit a tree: their paths are of names of words, none is another
one's or continues it, and only tables stand on the way to their places. -/
structure Suits (environment : List (String × String)) (tree : Value) : Prop where
  names : ∀ setting ∈ named environment, ∀ name ∈ setting.1, IsName name
  apart : AreApart (named environment)
  fit : Fit (named environment) tree

instance (environment : List (String × String)) (tree : Value) :
    Decidable (Suits environment tree) :=
  decidable_of_iff ((∀ setting ∈ named environment, ∀ name ∈ setting.1, IsName name) ∧
      AreApart (named environment) ∧ Fit (named environment) tree)
    ⟨fun ⟨names, apart, fit⟩ => ⟨names, apart, fit⟩, fun ⟨names, apart, fit⟩ => ⟨names, apart, fit⟩⟩

/-- The tree of a file with the settings of the environment placed in it. -/
def merged (settings : List (String × Value)) (environment : List (String × String)) : Value :=
  placeAll (named environment) (layered settings)

/-- The variables that count may come in any order, between any that do not. -/
theorem named_perm {others : List (String × String)}
    (same : (others.filter counts).Perm (environment.filter counts)) :
    (named others).Perm (named environment) := by
  rw [← named_filter_counts others, ← named_filter_counts environment]
  exact same.filterMap _

theorem layered_append_overrides_eq_merged {tree : Value} (suits : Suits environment tree)
    {others : List (String × String)} (same : (named others).Perm (named environment)) :
    layered (settings ++ overrides others) = merged settings environment := by
  rw [layered_append_overrides fun setting member => suits.names setting (same.mem_iff.mp member)]
  exact (placeAll_perm suits.apart same.symm (layered settings)).symm

theorem hasSortedTables_merged {tree : Value} (tables : Value.HaveSortedTables settings)
    (suits : Suits environment tree) : (merged settings environment).HasSortedTables := by
  rw [← layered_append_overrides_eq_merged suits (List.Perm.refl _)]
  refine hasSortedTables_layered (List.forall_mem_append.mpr ⟨?_, ?_⟩)
  · exact Value.haveSortedTables_iff.mp tables
  · intro setting member
    rw [overrides_eq_map_named] at member
    obtain ⟨source, isNamed, rfl⟩ := List.mem_map.mp member
    exact hasSortedTables_of_not_isTable (of_mem_named isNamed).2

/-- Loading a file, whatever its reader is, reads the tree of the file with the value that the
text of every variable that counts stands for placed at its path.  The leaves of this tree are
these values and the leaves of the file that none of them covers; what it leaves out has its
default; and neither the order of the variables nor one that does not count matters.  In the
tree of a file whose keys stand apart each value stands at the place that its key names, in
whatever order the keys are gone through, and a file whose keys are single names is its own
tree. -/
theorem load_eq_loaded_merged {read : FileReader} {file : File} (holds : file.Holds read settings)
    (suits : Suits environment (layered settings)) :
    loadBy read (some file) environment = loaded (merged settings environment) ∧
    (∀ path value, (path, value) ∈ named environment ↔ ∃ name text,
      (name, text) ∈ environment ∧ variablePath? name = some path ∧ StandsFor text value) ∧
    IsPlaced (named environment) (layered settings) (merged settings environment) ∧
    (∀ path value, IsLeafAt path value (merged settings environment) ↔
      (path, value) ∈ named environment ∨ (IsLeafAt path value (layered settings) ∧
        ∀ setting ∈ named environment, ¬ setting.1 <+: path)) ∧
    loaded (overlay (merged settings environment) ({} : Config).toValue.ordered) =
      loaded (merged settings environment) ∧
    (∀ others, (others.filter counts).Perm (environment.filter counts) →
      loadBy read (some file) others = loadBy read (some file) environment) ∧
    (HasApartKeys settings → IsPlaced (keyed settings) (.object []) (layered settings) ∧
      ∀ others, others.Perm settings → layered others = layered settings) ∧
    ((∀ setting ∈ settings, IsPlain setting.1) →
      HasApartKeys settings ∧ layered settings = .object (orderMembers settings)) := by
  obtain ⟨given, distinct, tables⟩ := holds
  have placed := isPlaced_placeAll suits.apart (layered settings)
  have loads (others : List (String × String)) (same : (named others).Perm (named environment)) :
      loadBy read (some file) others = loaded (merged settings environment) := by
    rw [loadBy_eq_loaded_layered given, layered_append_overrides_eq_merged suits same]
  refine ⟨loads environment (List.Perm.refl _), fun path value => mem_named_iff, placed, ?leaves,
    ?defaults, ?order, ?keys, ?plain⟩
  case leaves =>
    exact placed.isLeafAt_iff suits.fit fun setting member => (of_mem_named member).2
  case defaults =>
    rw [loaded, ofValue?_overlay_default (hasSortedTables_merged tables suits)]
    rfl
  case order =>
    intro others same
    rw [loads others (named_perm same), loads environment (List.Perm.refl _)]
  case keys =>
    intro keys
    refine ⟨?_, fun others same => keys.layered_perm tables same⟩
    rw [keys.layered_eq tables]
    exact isPlaced_placeAll keys.apart (.object [])
  case plain =>
    exact fun plain =>
      ⟨hasApartKeys_of_isPlain distinct plain, layered_of_isPlain distinct tables plain⟩

/-- Variables of either case that change a setting and start a section within a section, over a
file with a key that is written as a path. -/
theorem load_eq_loaded_merged_sections :
    let file : File := ⟨"json", "\x7b\"server\":\x7b\"address\":\"127.0.0.1\"\x7d," ++
      "\"site.host\":\"a.example\"\x7d"⟩
    let settings := [("server", .object [("address", .text "127.0.0.1")]),
      ("site.host", .text "a.example")]
    let environment := [("PATH", "/bin"), ("sprouts__Server__Port", "9090"),
      ("SPROUTS__SERVER__SSL__CERT", "a.pem")]
    file.Holds File.read settings ∧ Suits environment (layered settings) ∧
    HasApartKeys settings ∧ layered settings.reverse = layered settings ∧
    load (some file) environment = loaded (merged settings environment) ∧
    ((load (some file) environment).toOption.map fun config =>
      (config.server, config.site.host, config.site.defaultLocale)) =
      some (⟨.v4 [127, 0, 0, 1], 9090, some ⟨"a.pem", "key.pem"⟩⟩, "a.example", .en) := by
  intro file settings environment
  have holds : file.Holds File.read settings := File.holds_of_read (by cbv)
  have other : variablePath? "PATH" = none := by decide +kernel
  have port : variablePath? "sprouts__Server__Port" = some ["server", "port"] := by
    decide +kernel
  have certificate : variablePath? "SPROUTS__SERVER__SSL__CERT" =
      some ["server", "ssl", "cert"] := by decide +kernel
  have isNamed : named environment = [(["server", "port"], variableValue "9090"),
      (["server", "ssl", "cert"], variableValue "a.pem")] := by
    simp [named, environment, other, port, certificate]
  have suits : Suits environment (layered settings) := {
    names := by rw [isNamed]; decide +kernel
    apart := by rw [isNamed]; decide +kernel
    fit := by rw [isNamed]; decide +kernel }
  have keys : HasApartKeys settings := by decide +kernel
  obtain ⟨isLoaded, -, -, -, -, -, ofKeys, -⟩ := load_eq_loaded_merged holds suits
  exact ⟨holds, suits, keys, (ofKeys keys).2 _ (List.reverse_perm settings), isLoaded,
    by decide +kernel⟩

/-- Names that do not say where a setting stands.  A point in a name of the file leads into a
section, so that the file is not its own tree; where two names of the file lead to one place,
the order in which they are gone through decides; and behind a name with a letter beyond ASCII
there is no path, so that a variable with such a name changes nothing. -/
theorem load_ne_loaded_placeAll :
    let pointed : File := ⟨"json", "\x7b\"site.origin\":\"https://a.example\"\x7d"⟩
    let settings := [("site.origin", .text "https://a.example")]
    let nested := ("site", .object [("origin", .text "https://b.example")])
    let empty : File := ⟨"json", "\x7b\x7d"⟩
    let accented : Setting := (["site", "origin", "é"], .text "x")
    (pointed.Holds File.read settings ∧ Suits [] (.object settings) ∧
      load (some pointed) [] ≠ loaded (placeAll (named []) (.object settings))) ∧
    loaded (layered (nested :: settings)) ≠ loaded (layered (settings ++ [nested])) ∧
    empty.Holds File.read [] ∧ Fit [accented] (.object []) ∧
      load (some empty) [("SPROUTS__SITE__ORIGIN__É", "x")] ≠
        loaded (placeAll [accented] (.object [])) := by
  intro pointed settings nested empty accented
  refine ⟨⟨File.holds_of_read (by cbv), by decide +kernel, fun same => ?_⟩, fun same => ?_,
    File.holds_of_read (by cbv), by decide +kernel, fun same => ?_⟩
  · have origins := congrArg (fun result => result.toOption.map (·.site.origin)) same
    exact absurd origins (by decide +kernel)
  · have origins := congrArg (fun result => result.toOption.map (·.site.origin)) same
    exact absurd origins (by decide +kernel)
  · have succeeds := congrArg (fun result => result.toOption.isSome) same
    exact absurd succeeds (by decide +kernel)

end PublicSite.Config
