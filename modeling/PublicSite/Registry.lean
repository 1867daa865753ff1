import PublicSite.Failure

/-!
# The registry of features

Every feature of the site leaves its state in a registry, under a key that fixes
the type of that state.  The registry forgets this type: it keeps each state in a
box with the key noted beside it, and what is in a box is given out only as the
type that it has.  A feature registered twice counts as it was registered last.
The state of the site is the registry together with the configuration, without
which no state is built.
-/

namespace PublicSite

/-- Why the state of the site is not as it should be. -/
inductive StateCause where
  | validation (message : String)
  | missingFeature (name : String)
  deriving DecidableEq, Repr

instance : Cause StateCause where
  headline
    | .validation _ => "State validation error"
    | .missingFeature _ => "State missing feature slice"
  detail
    | .validation message => message
    | .missingFeature name => name

variable {Key : Type} {State : Key → Type}

/-- A feature: its key and the state that it leaves. -/
structure FeatureEntry (State : Key → Type) where
  key : Key
  state : State key

/-- A feature as it is kept: the key noted beside it, and the state in a box that knows
its own type.  Nothing in the type of a box says that the two agree. -/
structure Boxed (State : Key → Type) where
  noted : Key
  content : FeatureEntry State

namespace Boxed

/-- A feature put into a box. -/
def of (entry : FeatureEntry State) : Boxed State :=
  ⟨entry.key, entry⟩

/-- What is in the box, if it is of the type that is asked for. -/
def open? [DecidableEq Key] (boxed : Boxed State) (key : Key) : Option (State key) :=
  if same : boxed.content.key = key then some (same ▸ boxed.content.state) else none

end Boxed

/-- The features registered, each key noted once. -/
structure Registry (State : Key → Type) where
  boxes : List (Boxed State)

namespace Registry

variable [DecidableEq Key]

/-- A registry without features. -/
def empty : Registry State := ⟨[]⟩

/-- Register a feature in place of one with the same key. -/
def register (registry : Registry State) (entry : FeatureEntry State) : Registry State :=
  ⟨Boxed.of entry :: registry.boxes.filter fun other => other.noted != entry.key⟩

/-- Register several features in turn. -/
def registerAll (registry : Registry State) (entries : List (FeatureEntry State)) :
    Registry State :=
  entries.foldl register registry

/-- The state of a feature: the box is found by the key noted beside it, and opened. -/
def get? (registry : Registry State) (key : Key) : Option (State key) :=
  (registry.boxes.find? fun boxed => boxed.noted == key).bind fun boxed => boxed.open? key

/-- The keys of the features registered. -/
def keys (registry : Registry State) : List Key :=
  registry.boxes.map Boxed.noted

end Registry

/-- The state of the site. -/
structure SiteState (Config : Type) (State : Key → Type) where
  config : Config
  registry : Registry State

/-- The state of the site while it is being put together. -/
structure StateBuilder (Config : Type) (State : Key → Type) where
  config : Option Config
  registry : Registry State

namespace StateBuilder

variable {Config : Type} [DecidableEq Key]

/-- Nothing given yet. -/
def new : StateBuilder Config State := ⟨none, Registry.empty⟩

/-- Give the configuration. -/
def withConfig (builder : StateBuilder Config State) (config : Config) :
    StateBuilder Config State :=
  { builder with config := some config }

/-- Register a feature. -/
def register (builder : StateBuilder Config State) (entry : FeatureEntry State) :
    StateBuilder Config State :=
  { builder with registry := builder.registry.register entry }

/-- Register several features in turn. -/
def registerAll (builder : StateBuilder Config State) (entries : List (FeatureEntry State)) :
    StateBuilder Config State :=
  { builder with registry := builder.registry.registerAll entries }

/-- What can be done before the state is built. -/
inductive Action (Config : Type) (State : Key → Type) where
  | config (config : Config)
  | register (entry : FeatureEntry State)
  | registerAll (entries : List (FeatureEntry State))

/-- Do one thing. -/
def act (builder : StateBuilder Config State) : Action Config State → StateBuilder Config State
  | .config config => builder.withConfig config
  | .register entry => builder.register entry
  | .registerAll entries => builder.registerAll entries

/-- Build the state, which takes a configuration. -/
def build (builder : StateBuilder Config State) :
    Except (Failure StateCause) (SiteState Config State) :=
  match builder.config with
  | some config => .ok ⟨config, builder.registry⟩
  | none => failWith (.validation "SiteConfig not provided")

end StateBuilder

namespace SiteState

variable {Config : Type} [DecidableEq Key]

/-- The state of a feature. -/
def get? (state : SiteState Config State) (key : Key) : Option (State key) :=
  state.registry.get? key

/-- The state of a feature, or a failure that names it. -/
def require (state : SiteState Config State) (name : Key → String) (key : Key) :
    Except (Failure StateCause) (State key) :=
  match state.get? key with
  | some found => .ok found
  | none => failWith (.missingFeature (name key))

/-- The names of the features that are there. -/
def names (state : SiteState Config State) (name : Key → String) : List String :=
  state.registry.keys.map name

end SiteState

end PublicSite
