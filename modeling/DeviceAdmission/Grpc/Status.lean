/-!
# gRPC statuses

The outcome of a call as it goes over the wire: a code from 0 to 16, a message, encoded details and
metadata entries.
-/
namespace DeviceAdmission.Grpc

/-- A code from 0 to 16. -/
abbrev StatusCode := Fin 17

namespace StatusCode

def ok : StatusCode := 0
def unknown : StatusCode := 2
def invalidArgument : StatusCode := 3
def deadlineExceeded : StatusCode := 4
def permissionDenied : StatusCode := 7

/-- A number outside the table is the unknown code. -/
def ofInt (n : Int) : StatusCode :=
  if h : 0 ≤ n ∧ n < 17 then ⟨n.toNat, by omega⟩ else unknown

end StatusCode

structure Status where
  code : StatusCode
  message : String
  details : List UInt8 := []
  metadata : List (String × String) := []
  deriving DecidableEq, Repr

/-- Whether a text may be the value of a metadata entry: no control characters besides tab. -/
def isHeaderText (text : String) : Bool :=
  text.toList.all fun c => c == '\t' || (32 ≤ c.toNat && c.toNat != 127)

/-- The first value of a metadata key. -/
def Status.metadata? (status : Status) (key : String) : Option String :=
  (status.metadata.find? (·.1 == key)).map (·.2)

end DeviceAdmission.Grpc
