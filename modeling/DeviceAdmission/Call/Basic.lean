import DeviceAdmission.Certificate.Basic
import DeviceAdmission.Message.Basic

/-!
# Calls

What the gate sees of an inbound call, whatever transport it came over.
-/
namespace DeviceAdmission

structure Call where
  /-- The full method name, `/package.Service/Method`. -/
  method : String
  /-- Every value under a key in the order of arrival. A value that is no readable text is empty, so
  the others keep their places. -/
  metadata : String → List String
  /-- The peer's chain; `none` without mutual authentication of the transport. -/
  peer : Option Certificate.Chain
  message : Message

namespace Call

/-- The metadata key of the claimed device id. -/
def deviceIdKey : String := "device_id"

/-- The metadata key by which a caller chooses the request id. -/
def requestIdKey : String := "x-request-id"

/-- Texts that differ at most in the case of ASCII letters. -/
def sameIgnoringCase (a b : String) : Bool := a.toLower == b.toLower

end Call

/-- A call that is held in memory with its decoded request. -/
structure MemoryCall where
  method : String
  /-- Entries in the order in which they were added. -/
  entries : List (String × String)
  peer : Option Certificate.Chain
  message : Message

/-- Keys are found in any letter case. -/
def MemoryCall.view (c : MemoryCall) : Call where
  method := c.method
  metadata key := (c.entries.filter fun e => Call.sameIgnoringCase e.1 key).map (·.2)
  peer := c.peer
  message := c.message

end DeviceAdmission
