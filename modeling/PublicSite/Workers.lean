import PublicSite.Text.Blank

/-!
# Worker profiles

How many workers serve requests, how large their stacks are, how they are named
and how long an idle one is kept.  Presets fix all four; settings changed later
are brought into range, and so are those of a profile that was put together by
hand, when workers are started from it.
-/

namespace PublicSite

/-- The settings of the workers. -/
structure Workers where
  threads : Nat
  stackSize : Nat
  name : String
  keepAliveSeconds : Nat
  deriving DecidableEq, Repr

namespace Workers

/-- A mebibyte. -/
def mebibyte : Nat := 1024 * 1024

/-- The name of a worker that was given none. -/
def defaultName : String := "sprouts-worker"

/-- As many workers as the machine has processors. -/
def standard (processors : Nat) : Workers :=
  ⟨processors, 3 * mebibyte, defaultName, 60⟩

/-- Larger stacks, and idle workers kept for long. -/
def highPerformance (processors : Nat) : Workers :=
  ⟨processors, 4 * mebibyte, "sprouts-hp", 300⟩

/-- Two workers with small stacks, kept for a short time. -/
def memoryEfficient : Workers :=
  ⟨2, 2 * mebibyte, "sprouts-mem", 30⟩

/-- A count of workers in range. -/
def clampThreads (count : Nat) : Nat :=
  max 1 (min count 1024)

/-- A stack size in range. -/
def clampStackSize (size : Nat) : Nat :=
  max mebibyte (min size (16 * mebibyte))

/-- A name that is not blank. -/
def usableName (name : String) : String :=
  if Text.isBlank name.toList then defaultName else name

/-- The profile with another count of workers. -/
def withThreads (workers : Workers) (count : Nat) : Workers :=
  { workers with threads := clampThreads count }

/-- The profile with another stack size. -/
def withStackSize (workers : Workers) (size : Nat) : Workers :=
  { workers with stackSize := clampStackSize size }

/-- The profile with another name. -/
def withName (workers : Workers) (name : String) : Workers :=
  { workers with name := usableName name }

/-- The profile that workers are started from. -/
def started (workers : Workers) : Workers :=
  { workers with
    threads := clampThreads workers.threads
    stackSize := clampStackSize workers.stackSize
    name := usableName workers.name }

end Workers

end PublicSite
