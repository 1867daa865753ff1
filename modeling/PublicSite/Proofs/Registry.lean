import Mathlib.Data.List.Induction
import Mathlib.Data.List.Nodup
import PublicSite.Registry

/-!
# Looking features up

A feature that is registered is found under its key and hides no other one.  So
of several features with keys of their own, each one is found again.

Whatever is done before the state is built, the registry holds of every key the
feature that was registered last: `Registry.Holds` says so, every step keeps it,
and the last section reads off what any run of steps comes to.
-/

namespace PublicSite

variable {Key : Type} {State : Key → Type} [DecidableEq Key]

namespace Registry

@[simp]
theorem open?_of (entry : FeatureEntry State) :
    (Boxed.of entry).open? entry.key = some entry.state := by
  simp [Boxed.of, Boxed.open?]

theorem exists_open?_of_key {boxed : Boxed State} {key : Key}
    (isKey : boxed.content.key = key) : ∃ state, boxed.open? key = some state := by
  rw [Boxed.open?, dif_pos isKey]
  exact ⟨_, rfl⟩

@[simp]
theorem get?_register_self (registry : Registry State) (entry : FeatureEntry State) :
    (registry.register entry).get? entry.key = some entry.state := by
  have first : (Boxed.of entry).noted = entry.key := rfl
  simp [get?, register, first]

theorem get?_register_of_ne (registry : Registry State) {entry : FeatureEntry State} {key : Key}
    (other : entry.key ≠ key) : (registry.register entry).get? key = registry.get? key := by
  have notFirst : ((Boxed.of entry).noted == key) = false := beq_false_of_ne other
  have sameBoxes : (fun boxed : Boxed State =>
      decide ((boxed.noted != entry.key) = true ∧ (boxed.noted == key) = true)) =
        fun boxed => boxed.noted == key := by
    funext boxed
    by_cases same : boxed.noted = key <;> simp [same, Ne.symm other]
  simp only [get?, register, List.find?_cons, notFirst, List.find?_filter, sameBoxes]

/-- What is registered under other keys does not change what is found. -/
theorem get?_registerAll_of_not_mem {entries : List (FeatureEntry State)} {key : Key}
    (others : key ∉ entries.map FeatureEntry.key) (registry : Registry State) :
    (registry.registerAll entries).get? key = registry.get? key := by
  induction entries generalizing registry with
  | nil => rfl
  | cons entry rest ih =>
      rw [List.map_cons, List.mem_cons, not_or] at others
      calc
        (registry.registerAll (entry :: rest)).get? key =
            (registry.register entry).get? key := ih others.2 (registry.register entry)
        _ = registry.get? key := registry.get?_register_of_ne (Ne.symm others.1)

/-- Each of several features with keys of their own is found. -/
theorem get?_registerAll_of_mem {entries : List (FeatureEntry State)}
    (distinct : (entries.map FeatureEntry.key).Nodup) {entry : FeatureEntry State}
    (member : entry ∈ entries) (registry : Registry State) :
    (registry.registerAll entries).get? entry.key = some entry.state := by
  induction entries generalizing registry with
  | nil => exact absurd member List.not_mem_nil
  | cons first rest ih =>
      obtain ⟨fresh, distinct⟩ := List.nodup_cons.mp distinct
      rcases List.mem_cons.mp member with rfl | later
      · calc
          (registry.registerAll (entry :: rest)).get? entry.key =
              (registry.register entry).get? entry.key :=
            get?_registerAll_of_not_mem fresh (registry.register entry)
          _ = some entry.state := registry.get?_register_self entry
      · exact ih distinct later (registry.register first)

/-! ## What a registry holds -/

/-- The last of several features that has a key leaves a state. -/
def IsLast (key : Key) (state : State key) (entries : List (FeatureEntry State)) : Prop :=
  ∃ front back, entries = front ++ ⟨key, state⟩ :: back ∧ ∀ entry ∈ back, entry.key ≠ key

omit [DecidableEq Key] in
theorem isLast_append_self {entries : List (FeatureEntry State)} {entry : FeatureEntry State}
    {state : State entry.key} :
    IsLast entry.key state (entries ++ [entry]) ↔ state = entry.state := by
  constructor
  · rintro ⟨front, back, whole, others⟩
    rcases List.eq_nil_or_concat' back with rfl | ⟨back, last, rfl⟩
    · obtain ⟨-, same⟩ := List.append_inj' whole rfl
      have same : entry = ⟨entry.key, state⟩ := List.singleton_injective same
      exact (eq_of_heq (FeatureEntry.mk.inj same).2).symm
    · rw [← List.cons_append, ← List.append_assoc] at whole
      obtain ⟨-, same⟩ := List.append_inj' whole rfl
      have isEntry : last = entry := (List.singleton_injective same).symm
      exact absurd (congrArg FeatureEntry.key isEntry) (others last (by simp))
  · rintro rfl
    exact ⟨entries, [], rfl, List.forall_mem_nil _⟩

omit [DecidableEq Key] in
theorem isLast_append_of_ne {entries : List (FeatureEntry State)} {entry : FeatureEntry State}
    {key : Key} (other : entry.key ≠ key) {state : State key} :
    IsLast key state (entries ++ [entry]) ↔ IsLast key state entries := by
  constructor
  · rintro ⟨front, back, whole, others⟩
    rcases List.eq_nil_or_concat' back with rfl | ⟨back, last, rfl⟩
    · obtain ⟨-, same⟩ := List.append_inj' whole rfl
      exact absurd (congrArg FeatureEntry.key (List.singleton_injective same)) other
    · rw [← List.cons_append, ← List.append_assoc] at whole
      obtain ⟨whole, -⟩ := List.append_inj' whole rfl
      exact ⟨front, back, whole, fun entry member => others entry (List.mem_append_left _ member)⟩
  · rintro ⟨front, back, rfl, others⟩
    refine ⟨front, back ++ [entry], by simp, ?_⟩
    simpa [or_imp, forall_and, other] using others

/-- The registry holds what was registered, in this order: of every key the last
state, and nothing else. -/
structure Holds (registry : Registry State) (entries : List (FeatureEntry State)) : Prop where
  found : ∀ key state, registry.get? key = some state ↔ IsLast key state entries
  distinct : registry.keys.Nodup
  keys : ∀ key, key ∈ registry.keys ↔ key ∈ entries.map FeatureEntry.key
  agree : ∀ boxed ∈ registry.boxes, boxed.noted = boxed.content.key

theorem holds_empty : (empty : Registry State).Holds [] where
  found := by simp [empty, get?, IsLast]
  distinct := List.nodup_nil
  keys := by simp [empty, Registry.keys]
  agree := List.forall_mem_nil _

theorem keys_register (registry : Registry State) (entry : FeatureEntry State) :
    (registry.register entry).keys = entry.key :: registry.keys.filter (· != entry.key) := by
  simp [Registry.keys, Registry.register, Boxed.of, List.filter_map, Function.comp_def]

theorem Holds.register {registry : Registry State} {entries : List (FeatureEntry State)}
    (holds : registry.Holds entries) (entry : FeatureEntry State) :
    (registry.register entry).Holds (entries ++ [entry]) where
  found key state := by
    by_cases same : entry.key = key
    · subst same
      rw [get?_register_self, isLast_append_self, Option.some.injEq, eq_comm]
    · rw [get?_register_of_ne registry same, isLast_append_of_ne same, holds.found]
  distinct := by
    rw [keys_register, List.nodup_cons]
    exact ⟨by simp, holds.distinct.filter _⟩
  keys key := by
    by_cases same : key = entry.key
    · simp [keys_register, same]
    · simp [keys_register, same, holds.keys]
  agree := List.forall_mem_cons.mpr
    ⟨rfl, fun boxed member => holds.agree boxed (List.mem_filter.mp member).1⟩

theorem Holds.registerAll {registry : Registry State} {entries : List (FeatureEntry State)}
    (holds : registry.Holds entries) (more : List (FeatureEntry State)) :
    (registry.registerAll more).Holds (entries ++ more) := by
  induction more generalizing registry entries with
  | nil => rwa [List.append_nil]
  | cons entry rest ih =>
      rw [← List.singleton_append, ← List.append_assoc]
      exact ih (holds.register entry)

theorem Holds.get?_eq_none_iff {registry : Registry State} {entries : List (FeatureEntry State)}
    (holds : registry.Holds entries) (key : Key) :
    registry.get? key = none ↔ key ∉ entries.map FeatureEntry.key := by
  rw [← holds.keys, Registry.keys, get?, Option.bind_eq_none_iff]
  constructor
  · intro nothing member
    obtain ⟨boxed, isBoxed, isNoted⟩ := List.mem_map.mp member
    cases found : registry.boxes.find? fun other => other.noted == key with
    | none => exact List.find?_eq_none.mp found boxed isBoxed (beq_iff_eq.mpr isNoted)
    | some first =>
        have isKey : first.noted = key := by simpa using List.find?_some found
        have agrees := holds.agree first (List.mem_of_find?_eq_some found)
        obtain ⟨state, opens⟩ := exists_open?_of_key (agrees.symm.trans isKey)
        exact nomatch (nothing first found).symm.trans opens
  · intro notKey boxed found
    have isKey : boxed.noted = key := by simpa using List.find?_some found
    exact absurd (List.mem_map.mpr ⟨boxed, List.mem_of_find?_eq_some found, isKey⟩) notKey

end Registry

/-! ## Runs -/

variable {Config : Type}

namespace StateBuilder

/-- The configuration that an action gives. -/
def Action.given? : Action Config State → Option Config
  | .config given => some given
  | _ => none

/-- The features that an action registers, in order. -/
def Action.registered : Action Config State → List (FeatureEntry State)
  | .config _ => []
  | .register entry => [entry]
  | .registerAll entries => entries

/-- The action with every feature registered on its own. -/
def Action.singly : Action Config State → List (Action Config State)
  | .registerAll entries => entries.map .register
  | action => [action]

/-- What is there after some actions. -/
def run (actions : List (Action Config State)) : StateBuilder Config State :=
  actions.foldl act new

theorem run_append (front back : List (Action Config State)) :
    run (front ++ back) = back.foldl act (run front) :=
  List.foldl_append

theorem foldl_register (entries : List (FeatureEntry State))
    (builder : StateBuilder Config State) :
    entries.foldl register builder = builder.registerAll entries := by
  induction entries generalizing builder with
  | nil => rfl
  | cons entry rest ih => exact ih (builder.register entry)

theorem foldl_act_singly (action : Action Config State) (builder : StateBuilder Config State) :
    action.singly.foldl act builder = builder.act action := by
  cases action with
  | config | register => rfl
  | registerAll entries => exact List.foldl_map.trans (foldl_register entries builder)

/-- Registering several features is registering them one by one. -/
theorem run_flatMap_singly (actions : List (Action Config State)) :
    run (actions.flatMap Action.singly) = run actions := by
  induction actions using List.reverseRecOn with
  | nil => rfl
  | append_singleton front last ih =>
      rw [List.flatMap_append, List.flatMap_singleton, run_append, run_append, ih,
        foldl_act_singly, List.foldl_cons, List.foldl_nil]

/-- What is there is what the actions gave: the last configuration, and the
features that were registered. -/
structure Follows (builder : StateBuilder Config State) (actions : List (Action Config State)) :
    Prop where
  config : builder.config = (actions.filterMap Action.given?).getLast?
  registry : builder.registry.Holds (actions.flatMap Action.registered)

theorem Follows.act {builder : StateBuilder Config State}
    {actions : List (Action Config State)} (follows : builder.Follows actions)
    (action : Action Config State) : (builder.act action).Follows (actions ++ [action]) := by
  obtain ⟨config, registry⟩ := follows
  constructor
  · cases action with
    | config given => simp [StateBuilder.act, withConfig, Action.given?]
    | register | registerAll =>
        simpa [StateBuilder.act, StateBuilder.register, StateBuilder.registerAll, Action.given?]
          using config
  · rw [List.flatMap_append, List.flatMap_singleton]
    cases action with
    | config => rwa [Action.registered, List.append_nil]
    | register entry => exact registry.register entry
    | registerAll entries => exact registry.registerAll entries

theorem follows_run (actions : List (Action Config State)) : (run actions).Follows actions := by
  induction actions using List.reverseRecOn with
  | nil => exact ⟨rfl, Registry.holds_empty⟩
  | append_singleton front last ih =>
      rw [run_append]
      exact ih.act last

end StateBuilder

/-- The state holds of every key the feature that was registered last, whatever was
registered under other keys; a feature that was never registered is missed by its
name, every box opens as the type whose key is noted beside it, and each key that was
registered has one name. -/
structure SiteState.Shows (site : SiteState Config State) (name : Key → String)
    (registered : List (FeatureEntry State)) : Prop where
  found : ∀ key state, site.get? key = some state ↔ Registry.IsLast key state registered
  absent : ∀ key, site.get? key = none ↔ key ∉ registered.map FeatureEntry.key
  required : ∀ key state, site.require name key = .ok state ↔ site.get? key = some state
  missed : ∀ key failure, site.require name key = .error failure ↔
    site.get? key = none ∧ failure = { cause := .missingFeature (name key) }
  opened : ∀ boxed ∈ site.registry.boxes, ∃ state, boxed.open? boxed.noted = some state
  names : ∃ keys : List Key, keys.Nodup ∧
    (∀ key, key ∈ keys ↔ key ∈ registered.map FeatureEntry.key) ∧
    site.names name = keys.map name

theorem SiteState.shows_of_holds {site : SiteState Config State}
    {registered : List (FeatureEntry State)} (holds : site.registry.Holds registered)
    (name : Key → String) : site.Shows name registered where
  found := holds.found
  absent := holds.get?_eq_none_iff
  required key state := by
    unfold require
    cases site.get? key <;> simp [failWith]
  missed key failure := by
    unfold require
    cases site.get? key <;> simp [failWith, eq_comm]
  opened := fun boxed member => Registry.exists_open?_of_key (holds.agree boxed member).symm
  names := ⟨site.registry.keys, holds.distinct, holds.keys, rfl⟩

namespace StateBuilder

/-- Building fails exactly when no configuration was given.  Otherwise the state has
the last one and shows what was registered, and it makes no difference whether
features were registered together or one by one. -/
theorem build_run (name : Key → String) (actions : List (Action Config State)) :
    let given := actions.filterMap Action.given?
    (∀ failure, (run actions).build = .error failure ↔
      given = [] ∧ failure = { cause := .validation "SiteConfig not provided" }) ∧
    (∀ config, given.getLast? = some config → ∃ site, (run actions).build = .ok site ∧
      site.config = config ∧ site.Shows name (actions.flatMap Action.registered)) ∧
    (run (actions.flatMap Action.singly)).build = (run actions).build := by
  intro given
  obtain ⟨config, registry⟩ := follows_run actions
  have isGiven : (run actions).config = given.getLast? := config
  refine ⟨fun failure => ?_, fun config last => ?_, by rw [run_flatMap_singly]⟩
  · unfold build
    rw [isGiven, ← List.getLast?_eq_none_iff]
    cases given.getLast? <;> simp [failWith, eq_comm]
  · refine ⟨⟨config, (run actions).registry⟩, ?_, rfl, SiteState.shows_of_holds registry name⟩
    rw [build, isGiven, last]

/-- A later configuration and a later feature of the same key count, and a feature
of another key stands beside it. -/
theorem build_run_twice :
    let first : FeatureEntry fun _ : Bool => Nat := ⟨true, 1⟩
    let second : FeatureEntry fun _ : Bool => Nat := ⟨true, 2⟩
    let other : FeatureEntry fun _ : Bool => Nat := ⟨false, 3⟩
    ∃ site, (run [.config "old", .register first, .registerAll [other, second],
        .config "new"]).build = .ok site ∧ site.config = "new" ∧
      site.get? true = some 2 ∧ site.get? false = some 3 ∧ (site.names toString).length = 2 := by
  intro first second other
  let actions : List (Action String fun _ : Bool => Nat) :=
    [.config "old", .register first, .registerAll [other, second], .config "new"]
  obtain ⟨-, builds, -⟩ := build_run toString actions
  obtain ⟨site, built, config, shows⟩ := builds "new" rfl
  refine ⟨site, built, config, (shows.found true 2).mpr ⟨[first, other], [], rfl, by simp⟩,
    (shows.found false 3).mpr ⟨[first], [second], rfl, by simp [second]⟩, ?_⟩
  rw [← Except.ok.inj built]
  rfl

end StateBuilder

end PublicSite
