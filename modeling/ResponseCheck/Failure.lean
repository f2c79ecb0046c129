import ResponseCheck.Http.Response
import ResponseCheck.Mismatch

/-! A failure is the reason why an expectation is not met, and what is worth knowing about it: the
arguments of the expectation, the value that failed, and the exchange it was about. -/

namespace ResponseCheck

namespace Failure

/-- Why an expectation is not met. -/
inductive Cause where
  | mismatch (m : Mismatch)
  | undecodable (error : Http.DecodeError)
  | wrongStatus (expected actual : Http.Status)
  | noResponse
  /-- A reason that is only known as text. -/
  | reported (reason : String)
deriving Repr

/-- The reason that a cause gives. -/
def Cause.reason : Cause → String
  | .mismatch m => m.message
  | .undecodable error => error.message
  | .wrongStatus expected actual => s!"expected status {expected.val}, got {actual.val}"
  | .noResponse => "no response available; issue a request first"
  | .reported reason => reason

/-- Something worth knowing about a failure. -/
inductive Frame where
  /-- The arguments of the expectation. -/
  | arguments (value : Json)
  /-- The value that failed. -/
  | element (value : Json)
  /-- The exchange that the expectation was about. -/
  | diagnostics (dump : String)
deriving Repr

/-- The text of a frame. -/
def Frame.text : Frame → String
  | .arguments value => "expect arguments: " ++ value.compact
  | .element value => "failed element: " ++ value.compact
  | .diagnostics dump => dump

/-- Whether a frame is a dump of an exchange. -/
def Frame.isDiagnostics : Frame → Bool
  | .diagnostics _ => true
  | _ => false

end Failure

/-- An expectation that is not met. -/
structure Failure where
  cause : Failure.Cause
  frames : List Failure.Frame := []
deriving Repr

namespace Failure

/-- The failure with one more frame. -/
def withFrame (failure : Failure) (frame : Frame) : Failure :=
  { failure with frames := failure.frames ++ [frame] }

/-- The reason of a failure. -/
def reason (failure : Failure) : String := failure.cause.reason

/-- The mismatch behind a failure, if there is one. -/
def mismatch? (failure : Failure) : Option Mismatch :=
  match failure.cause with
  | .mismatch m => some m
  | _ => none

/-- Whether a failure has a dump of an exchange. -/
def hasDiagnostics (failure : Failure) : Bool := failure.frames.any (·.isDiagnostics)

/-- The reason, and a line for each frame. -/
def message (failure : Failure) : String :=
  failure.reason ++ String.join (failure.frames.map fun frame => "\n" ++ frame.text)

end Failure

end ResponseCheck
