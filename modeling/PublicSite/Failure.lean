/-!
# Failures

A failure is a cause together with the circumstances in which it arose, if they
are known.  What a failure says begins with the headline of its cause, goes on
with the circumstances in parentheses, and ends with the details.  Telling the
circumstances again replaces what was told before.
-/

namespace PublicSite

/-- A cause of failures: what its message begins and ends with. -/
class Cause (α : Type) where
  /-- What went wrong in general. -/
  headline : α → String
  /-- What went wrong in particular. -/
  detail : α → String

/-- A cause and its circumstances. -/
structure Failure (α : Type) where
  cause : α
  context : Option String := none
  deriving DecidableEq, Repr

namespace Failure

/-- The failure, told with new circumstances. -/
def within {α : Type} (failure : Failure α) (context : String) : Failure α :=
  { failure with context := some context }

/-- The circumstances as they stand in a message. -/
def contextText : Option String → String
  | none => ""
  | some context => " (" ++ context ++ ")"

/-- What a failure says before its details. -/
def summary {α : Type} [Cause α] (failure : Failure α) : String :=
  Cause.headline failure.cause ++ contextText failure.context

/-- What a failure says. -/
def message {α : Type} [Cause α] (failure : Failure α) : String :=
  failure.summary ++ ": " ++ Cause.detail failure.cause

/-- Telling the circumstances twice keeps the second telling. -/
@[simp]
theorem within_within {α : Type} (failure : Failure α) (first second : String) :
    (failure.within first).within second = failure.within second :=
  rfl

end Failure

/-- Fail with a cause whose circumstances are not known. -/
def failWith {α β : Type} (cause : α) : Except (Failure α) β :=
  .error { cause }

/-- Tell the circumstances of a failure, if there is one. -/
def inContext {α β : Type} (context : String) (result : Except (Failure α) β) :
    Except (Failure α) β :=
  result.mapError fun failure => failure.within context

end PublicSite
