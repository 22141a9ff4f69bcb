import DeviceAdmission.Json.Printer
import DeviceAdmission.Message.Basic
import DeviceAdmission.Text.Diagnostic

/-!
# The register of requests that carry a device id

An entry says how to find the device id in requests of one kind, and what to answer when the id is
malformed. A registration makes an entry, which replaces an earlier one for its kind; it brings the
JSON of its responses, or an encoding of its own. Messages of other kinds are not looked at.
-/
namespace DeviceAdmission.DeviceId

structure Field where
  rpc : String
  request : Message.Kind
  extract : request.Payload → String
  response : Message.Kind
  rejected : response.Payload
  encode : response.Payload → List UInt8

namespace Field

/-- The compact text of a value's JSON, as octets. There are none if it cannot be written as JSON. -/
def encodeJson {α : Type} (write : α → Option Json) (value : α) : List UInt8 :=
  match write value with
  | some json => json.render.toUTF8.data.toList
  | none => []

/-- The device id of a message, if it is of the entry's kind. -/
def deviceId? (field : Field) (message : Message) : Option String :=
  (message.as? field.request).map field.extract

/-- The rejection as a value. -/
def rejection (field : Field) : Message := ⟨field.response, field.rejected⟩

/-- The rejection as it is attached to a status. -/
def rejectionDetails (field : Field) : List UInt8 := field.encode field.rejected

def diagnostic (field : Field) : String :=
  Text.Diagnostic.record "DeviceIdField" [("rpc", Text.Quoted.text field.rpc)]

end Field

structure Registry where
  /-- At most one entry a kind of request. -/
  fields : List Field

namespace Registry

def empty : Registry := ⟨[]⟩

/-- Registers an entry in place of an earlier one for the same kind of request. -/
def register (registry : Registry) (field : Field) : Registry :=
  ⟨registry.fields.filter (·.request != field.request) ++ [field]⟩

def find? (registry : Registry) (k : Message.Kind) : Option Field :=
  registry.fields.find? (·.request == k)

def contains (registry : Registry) (k : Message.Kind) : Bool := (registry.find? k).isSome

/-- The entry for a message together with the id that the message carries. -/
def lookup (registry : Registry) (message : Message) : Option (Field × String) :=
  (registry.find? message.kind).bind fun field =>
    (field.deviceId? message).map fun id => (field, id)

def size (registry : Registry) : Nat := registry.fields.length

def isEmpty (registry : Registry) : Bool := registry.fields.isEmpty

def rpcs (registry : Registry) : List String := registry.fields.map (·.rpc)

def diagnostic (registry : Registry) : String :=
  Text.Diagnostic.set (registry.rpcs.map Text.Quoted.text)

end Registry

/-- A registration of one kind of request. -/
inductive Registration where
  /-- The rejection is sent as the JSON that its type is written as. -/
  | plain (rpc : String) (request : Message.Kind) (extract : request.Payload → String)
      (response : Message.Kind) (rejected : response.Payload)
      (write : response.Payload → Option Json)
  /-- The registration brings an encoding of its own for the rejection. -/
  | encoded (field : Field)

/-- The entry that is made. -/
def Registration.field : Registration → Field
  | .plain rpc request extract response rejected write =>
    { rpc, request, extract, response, rejected, encode := Field.encodeJson write }
  | .encoded field => field

namespace Registry

/-- The register after some registrations, the first one first. -/
def ofHistory (history : List Registration) : Registry :=
  (history.map Registration.field).foldl register empty

open Message

/-- The requests of the fleet service that devices send. -/
def fleet : Registry :=
  ofHistory
    [.plain Method.enroll.path .enrollRequest EnrollRequest.deviceId .enrollResponse
        EnrollResponse.rejected (Kind.encode? .enrollResponse),
      .plain Method.getConfig.path .configRequest ConfigRequest.deviceId .configResponse
        ConfigResponse.rejected (Kind.encode? .configResponse),
      .plain Method.register.path .registerRequest RegisterRequest.deviceId .registerResponse
        RegisterResponse.rejected (Kind.encode? .registerResponse),
      .plain Method.heartbeat.path .heartbeatReport HeartbeatReport.deviceId .heartbeatAck
        HeartbeatAck.rejected (Kind.encode? .heartbeatAck)]

end Registry

end DeviceAdmission.DeviceId
