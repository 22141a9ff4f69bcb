/-!
# The register of failure codes

The code of a failure is a name. The register has seven of them and fixes the classes, the status
numbers and the default message of each; a delegate may bring a name that the register lacks.
-/
namespace DeviceAdmission

/-- The codes in the register. -/
inductive Failure.Code where
  /-- The presented identity is unknown or does not match what is on record. -/
  | unauthenticated
  /-- A known device may not call the method. -/
  | forbidden
  /-- What every refusal of the authentication stage surfaces as. -/
  | permissionDenied
  | invalidArgument
  | cancelled
  | deadlineExceeded
  | internal
  deriving DecidableEq, Repr

inductive Failure.Kind where
  | auth | request | call | unknown
  deriving DecidableEq, Repr

/-- Whether a client may issue the call again unchanged. -/
inductive Failure.Retry where
  | never | transient
  deriving DecidableEq, Repr

inductive Failure.Severity where
  | info | warn | critical
  deriving DecidableEq, Repr

namespace Failure

namespace Code

def all : List Code :=
  [.unauthenticated, .forbidden, .permissionDenied, .invalidArgument, .cancelled,
    .deadlineExceeded, .internal]

def name : Code → String
  | .unauthenticated => "AUTH.UNAUTHENTICATED"
  | .forbidden => "AUTH.FORBIDDEN"
  | .permissionDenied => "AUTH.PERMISSION_DENIED"
  | .invalidArgument => "REQUEST.INVALID_ARGUMENT"
  | .cancelled => "CALL.CANCELLED"
  | .deadlineExceeded => "CALL.DEADLINE_EXCEEDED"
  | .internal => "UNKNOWN.INTERNAL"

def names : List String := all.map name

/-- The code of a name; a name that nobody registered has none. -/
def ofName? (text : String) : Option Code := all.find? (·.name == text)

/-- What is said of a name without an entry. -/
def unregistered : String := "unregistered ErrorCode"

end Code

/-- A code as a failure holds it: any name. -/
structure CodeName where
  name : String
  deriving DecidableEq, Repr

instance : Coe Code CodeName := ⟨fun code => ⟨code.name⟩⟩

def Kind.name : Kind → String
  | .auth => "Auth"
  | .request => "Request"
  | .call => "Call"
  | .unknown => "Unknown"

/-- The name in audit records. -/
def Retry.name : Retry → String
  | .never => "never"
  | .transient => "transient"

/-- The name in audit records. -/
def Severity.name : Severity → String
  | .info => "info"
  | .warn => "warn"
  | .critical => "critical"

/-- An entry of the register. -/
structure Spec where
  kind : Kind
  httpStatus : UInt16
  grpcStatus : Int32
  retryable : Retry
  severity : Severity
  message : String
  deriving DecidableEq, Repr

/-- The entry of a code. -/
def Code.spec : Code → Spec
  | .unauthenticated =>
    ⟨.auth, 401, 16, .never, .warn, "Device identity could not be verified."⟩
  | .forbidden =>
    ⟨.auth, 403, 7, .never, .warn, "Device is not allowed to perform this call."⟩
  | .permissionDenied => ⟨.auth, 403, 7, .never, .warn, "permission denied"⟩
  | .invalidArgument => ⟨.request, 400, 3, .never, .info, "invalid argument"⟩
  | .cancelled => ⟨.call, 499, 1, .transient, .info, "call cancelled"⟩
  | .deadlineExceeded => ⟨.call, 504, 4, .transient, .info, "deadline exceeded"⟩
  | .internal =>
    ⟨.unknown, 500, 13, .transient, .critical, "Internal error. Please retry later."⟩

/-- The register: the entry of a name, if it has one. -/
def CodeName.spec? (code : CodeName) : Option Spec := (Code.ofName? code.name).map Code.spec

end Failure

end DeviceAdmission
