import DeviceAdmission.Call.Basic
import DeviceAdmission.Call.Timeout
import DeviceAdmission.Delegate.Identity

/-!
# Call contexts

What is threaded through the gate beside a call: the request id, the deadline, when the call is
cancelled, and the identity once it is established. Instants count nanoseconds from the start of the
clock.
-/
namespace DeviceAdmission.Call

/-- A point in time, in nanoseconds since the clock started. -/
abbrev Instant := Nat

structure Context where
  requestId : String
  deadline : Option Instant := none
  /-- When the call is cancelled; `none` if it never is. -/
  cancelledAt : Option Instant := none
  identity : Option Identity := none

namespace Context

def ofRequestId (id : String) : Context := { requestId := id }

def withDeadline (cx : Context) (deadline : Instant) : Context :=
  { cx with deadline := some deadline }

/-- A deadline that lies a duration after now. -/
def withTimeout (cx : Context) (now : Instant) (timeout : Duration) : Context :=
  cx.withDeadline (now + timeout)

def withIdentity (cx : Context) (identity : Identity) : Context :=
  { cx with identity := some identity }

/-- The request id of the caller if it sent one that is not empty, else a fresh one. -/
def chooseId (fresh : String) (sent : Option String) : String :=
  match sent with
  | some id => if id.isEmpty then fresh else id
  | none => fresh

/-- The context of a call that brings no deadline. -/
def forCall (fresh : String) (call : Call) : Context :=
  ofRequestId (chooseId fresh (call.metadata requestIdKey).head?)

def isCancelled (cx : Context) (now : Instant) : Bool := cx.cancelledAt.any (· ≤ now)

/-- The time left before the deadline; none is left once it has passed. -/
def remaining (cx : Context) (now : Instant) : Option Duration := cx.deadline.map (· - now)

end Context

end DeviceAdmission.Call
