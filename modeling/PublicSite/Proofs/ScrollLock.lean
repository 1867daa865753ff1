import Mathlib.Data.List.Nodup
import Mathlib.Logic.Function.Basic
import PublicSite.ScrollLock

/-!
# What the scroll lock shows

The lock keeps three values in step: the overflow that shows, the one to restore
and the tokens held.  `Represents` says which page they stand for, and every
event keeps it, so any run of events shows what the page shows.

A program never sees the tokens.  It holds handles, which may be cloned and then
share one lock, and guards, each of which gives its token back when it is
dropped.  The last section runs calls through such handles and reads off what
every handle shows after each of them.
-/

namespace PublicSite.ScrollLock

variable {Token : Type} [DecidableEq Token]

/-! ## The page behind a lock -/

/-- The values of a lock are those of a page.  An overflow is saved exactly while
a token is held, and it is the one that the page asked for. -/
structure Represents (lock : ScrollLock Token) (page : Page Token) : Prop where
  tokens : lock.tokens = page.held
  saved : lock.saved = if page.held.isEmpty then none else some page.asked
  overflow : lock.overflow = page.overflow

omit [DecidableEq Token] in
theorem represents_new (overflow : String) :
    Represents (new overflow : ScrollLock Token) ⟨overflow, []⟩ :=
  ⟨rfl, rfl, rfl⟩

/-- The first token saves what shows; a later one changes neither value, whether
or not it is held already. -/
theorem Represents.acquire {lock : ScrollLock Token} {page : Page Token}
    (represents : Represents lock page) (token : Token) :
    Represents (lock.acquire token) { page with held := page.held.insert token } := by
  rcases lock with ⟨overflow, saved, tokens⟩
  rcases page with ⟨asked, held⟩
  obtain ⟨tokensEq, savedEq, overflowEq⟩ := represents
  simp only at tokensEq savedEq overflowEq
  subst tokens saved overflow
  have heldAfter : (held.insert token).isEmpty = false :=
    List.isEmpty_eq_false_iff.mpr (List.ne_nil_of_mem List.mem_insert_self)
  cases held with
  | nil => exact ⟨rfl, by simp [ScrollLock.acquire, Page.overflow], rfl⟩
  | cons first rest =>
      refine ⟨rfl, ?_, ?_⟩
      · simp [ScrollLock.acquire, heldAfter]
      · simp [ScrollLock.acquire, Page.overflow, heldAfter]

/-- The last token restores what was saved, and no other token does. -/
theorem Represents.release {lock : ScrollLock Token} {page : Page Token}
    (represents : Represents lock page) (token : Token) :
    Represents (lock.release token) { page with held := page.held.erase token } := by
  rcases lock with ⟨overflow, saved, tokens⟩
  rcases page with ⟨asked, held⟩
  obtain ⟨tokensEq, savedEq, overflowEq⟩ := represents
  simp only at tokensEq savedEq overflowEq
  subst tokens saved overflow
  by_cases isHeld : token ∈ held
  · have heldBefore : held.isEmpty = false :=
      List.isEmpty_eq_false_iff.mpr (List.ne_nil_of_mem isHeld)
    cases last : (held.erase token).isEmpty with
    | true =>
        refine ⟨?_, ?_, ?_⟩ <;>
          simp [ScrollLock.release, Page.overflow, isHeld, heldBefore, last]
    | false =>
        refine ⟨?_, ?_, ?_⟩ <;>
          simp [ScrollLock.release, Page.overflow, isHeld, heldBefore, last]
  · rw [List.erase_of_not_mem isHeld]
    simp only [ScrollLock.release, List.contains_eq_mem, isHeld, decide_false,
      Bool.false_eq_true, if_false]
    exact ⟨rfl, rfl, rfl⟩

omit [DecidableEq Token] in
/-- A change of the overflow shows at once or is saved, but is never lost. -/
theorem Represents.setOverflow {lock : ScrollLock Token} {page : Page Token}
    (represents : Represents lock page) (overflow : String) :
    Represents (lock.setOverflow overflow) { page with asked := overflow } := by
  obtain ⟨tokensEq, savedEq, overflowEq⟩ := represents
  cases unlocked : page.held.isEmpty with
  | true =>
      refine ⟨?_, ?_, ?_⟩ <;>
        simp_all [ScrollLock.setOverflow, Page.overflow]
  | false =>
      refine ⟨?_, ?_, ?_⟩ <;>
        simp_all [ScrollLock.setOverflow, Page.overflow]

theorem Represents.step {lock : ScrollLock Token} {page : Page Token}
    (represents : Represents lock page) (event : Event Token) :
    Represents (lock.step event) (page.step event) := by
  cases event with
  | acquire token => exact represents.acquire token
  | acquireIf token active =>
      cases active with
      | true => exact represents.acquire token
      | false => exact represents
  | release token => exact represents.release token
  | setOverflow overflow => exact represents.setOverflow overflow

theorem Represents.run {lock : ScrollLock Token} {page : Page Token}
    (represents : Represents lock page) (events : List (Event Token)) :
    Represents (lock.run events) (events.foldl Page.step page) := by
  induction events generalizing lock page with
  | nil => exact represents
  | cons event rest ih => exact ih (represents.step event)

/-! ## Handles and guards -/

/-- A guard: the address of the lock that it was taken from, and its token. -/
structure Guard (Token : Type) where
  address : Nat
  token : Token

/-- What a program holds: the address behind each handle, and the guards that are
live.  The locks themselves are found by address. -/
structure Program (Token : Type) where
  locks : Nat → ScrollLock Token
  handles : List Nat
  guards : List (Guard Token)

/-- What a program may ask for.  Handles and guards are named by their places
among those held. -/
inductive Call (Token : Type) where
  | clone (handle : Nat)
  | acquire (handle : Nat) (token : Token)
  | acquireIf (handle : Nat) (token : Token) (active : Bool)
  | drop (guard : Nat)
  | setOverflow (handle : Nat) (overflow : String)

namespace Program

/-- Where a new lock is put. -/
def home : Nat := 0

/-- One new lock, with one handle to it. -/
def start (initial : String) : Program Token where
  locks := fun _ => new initial
  handles := [home]
  guards := []

/-- Do something to the lock at an address. -/
def send (program : Program Token) (address : Nat) (event : Event Token) : Program Token :=
  { program with
    locks := Function.update program.locks address ((program.locks address).step event) }

/-- Do something at the address behind a handle. -/
def through (program : Program Token) (handle : Nat) (act : Nat → Program Token) :
    Program Token :=
  match program.handles[handle]? with
  | some address => act address
  | none => program

/-- The program after a call.  A clone is one more handle with the same address,
and a guard keeps the address of the handle that it was taken through. -/
def step (program : Program Token) : Call Token → Program Token
  | .clone handle =>
      program.through handle fun address =>
        { program with handles := program.handles ++ [address] }
  | .acquire handle token =>
      program.through handle fun address =>
        { program.send address (.acquire token) with
          guards := ⟨address, token⟩ :: program.guards }
  | .acquireIf handle token active =>
      program.through handle fun address =>
        { program.send address (.acquireIf token active) with
          guards := if active then ⟨address, token⟩ :: program.guards else program.guards }
  | .drop place =>
      match program.guards[place]? with
      | some guard =>
          { program.send guard.address (.release guard.token) with
            guards := program.guards.eraseIdx place }
      | none => program
  | .setOverflow handle overflow =>
      program.through handle fun address => program.send address (.setOverflow overflow)

/-- The program after a run of calls. -/
def run (program : Program Token) (calls : List (Call Token)) : Program Token :=
  calls.foldl step program

/-- A new token, for the lock behind a handle that exists, is none of those held
there. -/
def Fresh (program : Program Token) (handle : Nat) (token : Token) : Prop :=
  ∃ address ∈ program.handles[handle]?, token ∉ (program.locks address).tokens

instance (program : Program Token) (handle : Nat) (token : Token) :
    Decidable (program.Fresh handle token) :=
  inferInstanceAs (Decidable (∃ address ∈ program.handles[handle]?,
    token ∉ (program.locks address).tokens))

/-- A call goes through a handle or a guard that the program holds, and a token
that it brings is fresh. -/
def Permits (program : Program Token) : Call Token → Prop
  | .clone handle => handle < program.handles.length
  | .acquire handle token => program.Fresh handle token
  | .acquireIf handle token active =>
      handle < program.handles.length ∧ (active = true → program.Fresh handle token)
  | .drop place => place < program.guards.length
  | .setOverflow handle _ => handle < program.handles.length

instance (program : Program Token) : (call : Call Token) → Decidable (program.Permits call)
  | .clone handle => inferInstanceAs (Decidable (handle < program.handles.length))
  | .acquire handle token => inferInstanceAs (Decidable (program.Fresh handle token))
  | .acquireIf handle token active =>
      inferInstanceAs (Decidable (handle < program.handles.length ∧
        (active = true → program.Fresh handle token)))
  | .drop place => inferInstanceAs (Decidable (place < program.guards.length))
  | .setOverflow handle _ => inferInstanceAs (Decidable (handle < program.handles.length))

/-- Every call of a run is permitted when it is made. -/
def PermitsAll (program : Program Token) : List (Call Token) → Prop
  | [] => True
  | call :: rest => program.Permits call ∧ (program.step call).PermitsAll rest

instance decidablePermitsAll :
    (program : Program Token) → (calls : List (Call Token)) →
      Decidable (program.PermitsAll calls)
  | _, [] => inferInstanceAs (Decidable True)
  | program, call :: rest =>
      have : Decidable ((program.step call).PermitsAll rest) := decidablePermitsAll _ rest
      inferInstanceAs (Decidable (program.Permits call ∧ (program.step call).PermitsAll rest))

/-- The overflow that was asked for last. -/
def lastAsked (initial : String) (calls : List (Call Token)) : String :=
  calls.foldl (fun asked call =>
    match call with
    | .setOverflow _ overflow => overflow
    | _ => asked) initial

/-! ## What a run keeps -/

/-- All handles and guards lead to the one lock, which stands for the page with
the overflow asked for and the tokens of the live guards. -/
structure Tracks (program : Program Token) (asked : String) : Prop where
  hasHandle : home ∈ program.handles
  handlesHome : ∀ address ∈ program.handles, address = home
  guardsHome : ∀ guard ∈ program.guards, guard.address = home
  distinct : (program.guards.map Guard.token).Nodup
  represents : Represents (program.locks home) ⟨asked, program.guards.map Guard.token⟩

omit [DecidableEq Token] in
theorem tracks_start (initial : String) : Tracks (start initial : Program Token) initial where
  hasHandle := by simp [start]
  handlesHome := by simp [start]
  guardsHome := by simp [start]
  distinct := by simp [start]
  represents := represents_new initial

theorem send_locks_home (program : Program Token) (event : Event Token) :
    (program.send home event).locks home = (program.locks home).step event := by
  simp [send]

omit [DecidableEq Token] in
theorem through_eq {program : Program Token} {asked : String} (tracks : program.Tracks asked)
    {handle : Nat} (exists_handle : handle < program.handles.length)
    (act : Nat → Program Token) : program.through handle act = act home := by
  have address_eq : program.handles[handle] = home :=
    tracks.handlesHome _ (List.getElem_mem exists_handle)
  simp [through, List.getElem?_eq_getElem exists_handle, address_eq]

omit [DecidableEq Token] in
theorem Fresh.handle_lt {program : Program Token} {handle : Nat} {token : Token}
    (fresh : program.Fresh handle token) : handle < program.handles.length := by
  obtain ⟨address, found, _⟩ := fresh
  exact (List.getElem?_eq_some_iff.mp found).1

omit [DecidableEq Token] in
/-- A fresh token is that of no live guard. -/
theorem Fresh.not_mem {program : Program Token} {asked : String} {handle : Nat} {token : Token}
    (fresh : program.Fresh handle token) (tracks : program.Tracks asked) :
    token ∉ program.guards.map Guard.token := by
  obtain ⟨address, found, unheld⟩ := fresh
  have address_eq : address = home := tracks.handlesHome address (List.mem_of_getElem? found)
  subst address
  rwa [tracks.represents.tokens] at unheld

omit [DecidableEq Token] in
theorem Tracks.clone {program : Program Token} {asked : String} (tracks : program.Tracks asked) :
    Tracks { program with handles := program.handles ++ [home] } asked where
  hasHandle := List.mem_append_left _ tracks.hasHandle
  handlesHome := by
    intro address member
    rcases List.mem_append.mp member with old | new
    · exact tracks.handlesHome address old
    · exact List.mem_singleton.mp new
  guardsHome := tracks.guardsHome
  distinct := tracks.distinct
  represents := tracks.represents

theorem Tracks.acquire {program : Program Token} {asked : String}
    (tracks : program.Tracks asked) {token : Token}
    (unheld : token ∉ program.guards.map Guard.token) :
    Tracks { program.send home (.acquire token) with
      guards := ⟨home, token⟩ :: program.guards } asked where
  hasHandle := tracks.hasHandle
  handlesHome := tracks.handlesHome
  guardsHome := by
    intro guard member
    rcases List.mem_cons.mp member with rfl | old
    · rfl
    · exact tracks.guardsHome guard old
  distinct := List.nodup_cons.mpr ⟨unheld, tracks.distinct⟩
  represents := by
    have stepped := tracks.represents.step (.acquire token)
    simp only [Page.step, List.insert_of_not_mem unheld] at stepped
    simpa only [send_locks_home, List.map_cons] using stepped

/-- Dropping a guard takes its token and no other one from those held, because
no two live guards have the same. -/
theorem Tracks.drop {program : Program Token} {asked : String} (tracks : program.Tracks asked)
    {place : Nat} (live : place < program.guards.length) :
    Tracks { program.send home (.release program.guards[place].token) with
      guards := program.guards.eraseIdx place } asked where
  hasHandle := tracks.hasHandle
  handlesHome := tracks.handlesHome
  guardsHome := fun guard member =>
    tracks.guardsHome guard (List.mem_of_mem_eraseIdx member)
  distinct := tracks.distinct.sublist ((List.eraseIdx_sublist _ _).map _)
  represents := by
    have liveToken : place < (program.guards.map Guard.token).length := by simpa using live
    have erased : (program.guards.map Guard.token).erase program.guards[place].token =
        (program.guards.eraseIdx place).map Guard.token := by
      have removed := tracks.distinct.erase_getElem place liveToken
      rw [List.getElem_map] at removed
      rw [removed]
      simp only [List.eraseIdx_eq_take_drop_succ, List.map_append, List.map_take, List.map_drop]
    have stepped := tracks.represents.step (.release program.guards[place].token)
    simp only [Page.step, erased] at stepped
    simpa only [send_locks_home] using stepped

theorem Tracks.setOverflow {program : Program Token} {asked : String}
    (tracks : program.Tracks asked) (overflow : String) :
    Tracks (program.send home (.setOverflow overflow)) overflow where
  hasHandle := tracks.hasHandle
  handlesHome := tracks.handlesHome
  guardsHome := tracks.guardsHome
  distinct := tracks.distinct
  represents := by
    rw [send_locks_home]
    exact tracks.represents.step (.setOverflow overflow)

theorem Tracks.step {program : Program Token} {asked : String} (tracks : program.Tracks asked)
    {call : Call Token} (permitted : program.Permits call) :
    Tracks (program.step call) (lastAsked asked [call]) := by
  cases call with
  | clone handle =>
      rw [Program.step, through_eq tracks permitted]
      exact tracks.clone
  | acquire handle token =>
      rw [Program.step, through_eq tracks permitted.handle_lt]
      exact tracks.acquire (permitted.not_mem tracks)
  | acquireIf handle token active =>
      obtain ⟨exists_handle, fresh⟩ := permitted
      rw [Program.step, through_eq tracks exists_handle]
      cases active with
      | true => exact tracks.acquire ((fresh rfl).not_mem tracks)
      | false =>
          have unchanged : (program.send home (.acquireIf token false)) = program := by
            simp [send, ScrollLock.step, ScrollLock.acquireIf]
          simpa [unchanged, lastAsked] using tracks
  | drop place =>
      have live : place < program.guards.length := permitted
      have address_eq : program.guards[place].address = home :=
        tracks.guardsHome _ (List.getElem_mem live)
      rw [Program.step, List.getElem?_eq_getElem live]
      simp only [address_eq]
      exact tracks.drop live
  | setOverflow handle overflow =>
      rw [Program.step, through_eq tracks permitted]
      exact tracks.setOverflow overflow

/-- The invariant holds after every beginning of a permitted run. -/
theorem Tracks.run {program : Program Token} {asked : String} (tracks : program.Tracks asked)
    {calls done : List (Call Token)} (permitted : program.PermitsAll calls)
    (beginning : done <+: calls) :
    Tracks (program.run done) (lastAsked asked done) := by
  induction done generalizing program asked calls with
  | nil => exact tracks
  | cons call rest ih =>
      obtain ⟨later, rfl⟩ := beginning
      exact ih (tracks.step permitted.1) permitted.2 (List.prefix_append rest later)

end Program

/-! ## What every handle shows -/

/-- What can be seen of a lock and done to it by whoever holds some guards: the
page is locked while there are any, and unlocked by the last one. -/
structure Shows (lock : ScrollLock Token) (asked : String) (guards : List (Guard Token)) :
    Prop where
  active : lock.activeCount = guards.length
  locked : lock.isLocked = true ↔ guards ≠ []
  hidden : guards ≠ [] → lock.overflow = "hidden"
  restored : guards = [] → lock.overflow = asked
  last : ∀ guard ∈ guards, (lock.release guard.token).isLocked = false ↔ guards.length = 1
  unheld : ∀ token ∉ guards.map Guard.token, lock.release token = lock

theorem Represents.shows {lock : ScrollLock Token} {asked : String}
    {guards : List (Guard Token)}
    (represents : Represents lock ⟨asked, guards.map Guard.token⟩) :
    lock.Shows asked guards where
  active := by simp [activeCount, represents.tokens]
  locked := by simp [isLocked, represents.tokens]
  hidden := by
    intro held
    simp [represents.overflow, Page.overflow, held, lockedOverflow]
  restored := by
    intro none
    simp [represents.overflow, Page.overflow, none]
  last := by
    intro guard live
    have isHeld : guard.token ∈ guards.map Guard.token := List.mem_map_of_mem live
    have remaining : (lock.release guard.token).tokens.length = guards.length - 1 := by
      rw [(represents.release guard.token).tokens, List.length_erase_of_mem isHeld,
        List.length_map]
    have positive : 0 < guards.length := List.length_pos_of_mem live
    rw [isLocked, Bool.not_eq_false', List.isEmpty_iff_length_eq_zero, remaining]
    omega
  unheld := by
    intro token absent
    have unheld : token ∉ lock.tokens := by rwa [represents.tokens]
    simp [ScrollLock.release, unheld]

namespace Program

/-- After every beginning of a run of calls, made in any order and through any
clones, every handle shows the guards that are live then and, once none is left,
the overflow that was asked for last. -/
theorem handles_show (initial : String) {calls done : List (Call Token)}
    (permitted : (start initial : Program Token).PermitsAll calls)
    (beginning : done <+: calls) :
    let program := (start initial : Program Token).run done
    program.handles ≠ [] ∧
      ∀ address ∈ program.handles,
        (program.locks address).Shows (lastAsked initial done) program.guards := by
  have tracks := (tracks_start initial).run permitted beginning
  refine ⟨List.ne_nil_of_mem tracks.hasHandle, ?_⟩
  intro address member
  rw [tracks.handlesHome address member]
  exact tracks.represents.shows

/-- Two dialogs, the second opened through a clone, are closed in the order in
which they were opened, while the page changes its overflow. -/
theorem handles_show_clone :
    let calls : List (Call Nat) :=
      [.acquire 0 7, .clone 0, .acquireIf 1 8 true, .setOverflow 1 "scroll", .drop 1]
    (start "auto" : Program Nat).PermitsAll calls ∧ calls <+: calls ∧
      ((start "auto" : Program Nat).run calls).handles ≠ [] ∧
      ∀ address ∈ ((start "auto" : Program Nat).run calls).handles,
        (((start "auto" : Program Nat).run calls).locks address).Shows "scroll"
          ((start "auto" : Program Nat).run calls).guards := by
  intro calls
  have permitted : (start "auto" : Program Nat).PermitsAll calls := by decide
  exact ⟨permitted, List.prefix_rfl,
    handles_show "auto" permitted (List.prefix_rfl (l := calls))⟩

end Program

end PublicSite.ScrollLock
