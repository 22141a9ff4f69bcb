import DeviceAdmission.Failure.Views
import DeviceAdmission.Grpc.Status
import DeviceAdmission.Call.Basic

/-!
# Refusals

Why a call is not let through: a failure, and possibly the response that the client should get along
with it, both as a value and encoded. A rejection is a refusal seen by someone who expects responses
of one kind.
-/
namespace DeviceAdmission

structure Refusal where
  failure : Failure
  response : Option Message := none
  /-- The response in its encoding for the wire. -/
  details : Option (List UInt8) := none

/-- A refusal for a caller that expects responses of a kind. -/
structure Rejection (k : Message.Kind) where
  failure : Failure
  response : Option k.Payload

namespace Refusal

def ofFailure (f : Failure) : Refusal := { failure := f }

def permissionDenied (message : String) : Refusal :=
  ofFailure ((Failure.ofCode .permissionDenied).withUser message)

def invalidArgument (message : String) : Refusal :=
  ofFailure ((Failure.ofCode .invalidArgument).withUser message)

def cancelled : Refusal := ofFailure (.ofCode .cancelled)

def deadlineExceeded : Refusal := ofFailure (.ofCode .deadlineExceeded)

/-- Only the logs get the message. -/
def internal (message : String) : Refusal := ofFailure ((Failure.ofCode .internal).withDev message)

def withDev (r : Refusal) (message : String) : Refusal :=
  { r with failure := r.failure.withDev message }

def withNote (r : Refusal) (key : String) (value : Json) : Refusal :=
  { r with failure := r.failure.withNote key value }

/-- Gives the failure a correlation id if it has none. -/
def correlate (r : Refusal) (id : String) : Refusal :=
  { r with failure := r.failure.correlate id }

def withResponse (r : Refusal) (response : Message) : Refusal :=
  { r with response := some response }

def withDetails (r : Refusal) (details : List UInt8) : Refusal :=
  { r with details := some details }

/-- What the caller is told. -/
def message (r : Refusal) : String := r.failure.messageUser

/-- The response is kept only if it is of the kind expected. -/
def toRejection (r : Refusal) (k : Message.Kind) : Rejection k :=
  ⟨r.failure, r.response.bind (·.as? k)⟩

/-- The status that is sent. The correlation id travels as the request id where it can. -/
def toStatus (r : Refusal) : Grpc.Status where
  code := .ofInt r.failure.grpcStatus.toInt
  message := r.failure.messageUser
  details := r.details.getD []
  metadata :=
    match r.failure.correlationId with
    | some id => if Grpc.isHeaderText id then [(Call.requestIdKey, id)] else []
    | none => []

open Text (Diagnostic.record Diagnostic.option Diagnostic.bool)

def diagnostic (r : Refusal) : String :=
  Diagnostic.record "InterceptError"
    [("error", r.failure.diagnostic), ("has_response", Diagnostic.bool r.response.isSome),
      ("details_len", Diagnostic.option (r.details.map fun d => toString d.length))]

end Refusal

end DeviceAdmission
