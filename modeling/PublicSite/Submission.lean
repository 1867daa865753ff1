import PublicSite.Failure

/-!
# Submissions

Sending a form ends in one of three ways: it was accepted, it was refused with a
status, or it failed for a reason that is not known.  The message that a visitor
sees is the caller's, never that of the failure.
-/

namespace PublicSite

/-- Why sending a form failed. -/
inductive SubmissionCause where
  /-- The service answered with a status that is not a success. -/
  | request (status : Nat) (message : String)
  | internal (message : String)
  deriving DecidableEq, Repr

instance : Cause SubmissionCause where
  headline
    | .request status _ => "Request failed with status " ++ toString status
    | .internal _ => "Request failed"
  detail
    | .request _ message => message
    | .internal message => message

/-- The status of a failed request. -/
def SubmissionCause.status? : SubmissionCause → Option Nat
  | .request status _ => some status
  | .internal _ => none

/-- How sending a form ended. -/
inductive SubmissionResult where
  | success
  | failed (status : Nat) (message : String)
  | unknown (message : String)
  deriving DecidableEq, Repr

namespace SubmissionResult

/-- A failure with the status that is known of it. -/
def failure (message : String) : Option Nat → SubmissionResult
  | some status => .failed status message
  | none => .unknown message

/-- The result of a request, with the message to show if it failed. -/
def ofOutcome {α : Type} (outcome : Except (Failure SubmissionCause) α) (message : String) :
    SubmissionResult :=
  match outcome with
  | .ok _ => .success
  | .error error => failure message error.cause.status?

/-- The form was accepted. -/
def isSuccess : SubmissionResult → Bool
  | .success => true
  | _ => false

/-- The status with which the form was refused. -/
def status? : SubmissionResult → Option Nat
  | .failed status _ => some status
  | _ => none

/-- The message to show; none on success. -/
def message : SubmissionResult → String
  | .success => ""
  | .failed _ message => message
  | .unknown message => message

end SubmissionResult

end PublicSite
