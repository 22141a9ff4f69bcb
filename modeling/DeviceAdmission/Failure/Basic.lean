import DeviceAdmission.Failure.Code
import DeviceAdmission.Json.Basic

/-!
# Failures

A failure tells the caller one message and keeps another for the logs. It is made from a code of the
register, which brings its entry, and then given messages, notes and a correlation id. A failure from
elsewhere need not agree with the register, nor have a code that is in it.
-/
namespace DeviceAdmission

structure Failure where
  code : Failure.CodeName
  kind : Failure.Kind
  /-- What the caller is told. -/
  messageUser : String
  /-- What only the logs show. -/
  messageDev : Option String
  httpStatus : UInt16
  grpcStatus : Int32
  retryable : Failure.Retry
  severity : Failure.Severity
  /-- Ascending by key. -/
  notes : List (String × Json)
  correlationId : Option String

namespace Failure

/-- A failure with the register's classes, status numbers and message. -/
def ofCode (code : Code) : Failure :=
  let spec := code.spec
  { code, kind := spec.kind, messageUser := spec.message, messageDev := none,
    httpStatus := spec.httpStatus, grpcStatus := spec.grpcStatus, retryable := spec.retryable,
    severity := spec.severity, notes := [], correlationId := none }

def withUser (f : Failure) (message : String) : Failure := { f with messageUser := message }

def withDev (f : Failure) (message : String) : Failure := { f with messageDev := some message }

def withNote (f : Failure) (key : String) (value : Json) : Failure :=
  { f with notes := Json.insert key value f.notes }

def withCorrelation (f : Failure) (id : String) : Failure := { f with correlationId := some id }

/-- Gives a correlation id to a failure that has none. -/
def correlate (f : Failure) (id : String) : Failure :=
  match f.correlationId with
  | none => f.withCorrelation id
  | some _ => f

/-- The identity could not be verified. -/
def unauthenticated (message : String) : Failure := (ofCode .unauthenticated).withUser message

/-- The device is known but may not make this call. -/
def forbidden (message : String) : Failure := (ofCode .forbidden).withUser message

/-- A fault behind the delegate; the caller is told no more than the default message. -/
def backendUnavailable (detail : String) : Failure := (ofCode .internal).withDev detail

end Failure

end DeviceAdmission
