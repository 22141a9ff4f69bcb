import DeviceAdmission.Message.Forms

/-!
# Messages of any type

A message is a payload together with its type, so code that does not know the type can carry it and
code that expects one type can ask for it. Besides the fleet messages there are the bare text, the
empty message, and the messages of other services, of which only the type is known.
-/
namespace DeviceAdmission

inductive Message.Kind where
  | enrollRequest | enrollResponse | configRequest | configResponse | registerRequest
  | registerResponse | heartbeatReport | heartbeatAck | listDevicesRequest | listDevicesResponse
  | text | empty
  /-- A type of another service. -/
  | foreign (name : String)
  deriving DecidableEq, Repr

namespace Message.Kind

abbrev Payload : Kind → Type
  | .enrollRequest => EnrollRequest
  | .enrollResponse => EnrollResponse
  | .configRequest => ConfigRequest
  | .configResponse => ConfigResponse
  | .registerRequest => RegisterRequest
  | .registerResponse => RegisterResponse
  | .heartbeatReport => HeartbeatReport
  | .heartbeatAck => HeartbeatAck
  | .listDevicesRequest => ListDevicesRequest
  | .listDevicesResponse => ListDevicesResponse
  | .text => String
  | .empty => Unit
  | .foreign _ => List UInt8

def name : Kind → String
  | .enrollRequest => "EnrollRequest"
  | .enrollResponse => "EnrollResponse"
  | .configRequest => "ConfigRequest"
  | .configResponse => "ConfigResponse"
  | .registerRequest => "RegisterRequest"
  | .registerResponse => "RegisterResponse"
  | .heartbeatReport => "HeartbeatReport"
  | .heartbeatAck => "HeartbeatAck"
  | .listDevicesRequest => "ListDevicesRequest"
  | .listDevicesResponse => "ListDevicesResponse"
  | .text => "String"
  | .empty => "()"
  | .foreign name => name

/-- The kinds that the fleet knows. -/
def all : List Kind :=
  [.enrollRequest, .enrollResponse, .configRequest, .configResponse, .registerRequest,
    .registerResponse, .heartbeatReport, .heartbeatAck, .listDevicesRequest,
    .listDevicesResponse, .text, .empty]

def ofName? (text : String) : Option Kind := all.find? (·.name == text)

/-- The wire form; the empty message and foreign ones have none. -/
def form? : (k : Kind) → Option (Wire.Form k.Payload)
  | .enrollRequest => some EnrollRequest.form
  | .enrollResponse => some EnrollResponse.form
  | .configRequest => some ConfigRequest.form
  | .configResponse => some ConfigResponse.form
  | .registerRequest => some RegisterRequest.form
  | .registerResponse => some RegisterResponse.form
  | .heartbeatReport => some HeartbeatReport.form
  | .heartbeatAck => some HeartbeatAck.form
  | .listDevicesRequest => some ListDevicesRequest.form
  | .listDevicesResponse => some ListDevicesResponse.form
  | .text => some textForm
  | .empty | .foreign _ => none

/-- The written form. The empty message is null; how a foreign one is written is up to its service. -/
def encode? : (k : Kind) → k.Payload → Option Json
  | .empty, _ => some .null
  | k, payload => k.form?.map (·.encode payload)

/-- The value in which every field has its default. -/
def initial : (k : Kind) → k.Payload
  | .enrollRequest => ({} : EnrollRequest)
  | .enrollResponse => ({} : EnrollResponse)
  | .configRequest => ({} : ConfigRequest)
  | .configResponse => ({} : ConfigResponse)
  | .registerRequest => ({} : RegisterRequest)
  | .registerResponse => ({} : RegisterResponse)
  | .heartbeatReport => ({} : HeartbeatReport)
  | .heartbeatAck => ({} : HeartbeatAck)
  | .listDevicesRequest => ({} : ListDevicesRequest)
  | .listDevicesResponse => ({} : ListDevicesResponse)
  | .text => ""
  | .empty => ()
  | .foreign _ => ([] : List UInt8)

instance (k : Kind) : DecidableEq k.Payload :=
  match k with
  | .enrollRequest => inferInstanceAs (DecidableEq EnrollRequest)
  | .enrollResponse => inferInstanceAs (DecidableEq EnrollResponse)
  | .configRequest => inferInstanceAs (DecidableEq ConfigRequest)
  | .configResponse => inferInstanceAs (DecidableEq ConfigResponse)
  | .registerRequest => inferInstanceAs (DecidableEq RegisterRequest)
  | .registerResponse => inferInstanceAs (DecidableEq RegisterResponse)
  | .heartbeatReport => inferInstanceAs (DecidableEq HeartbeatReport)
  | .heartbeatAck => inferInstanceAs (DecidableEq HeartbeatAck)
  | .listDevicesRequest => inferInstanceAs (DecidableEq ListDevicesRequest)
  | .listDevicesResponse => inferInstanceAs (DecidableEq ListDevicesResponse)
  | .text => inferInstanceAs (DecidableEq String)
  | .empty => inferInstanceAs (DecidableEq Unit)
  | .foreign _ => inferInstanceAs (DecidableEq (List UInt8))

/-- The rejected value of a response to a device. -/
def rejected? : (k : Kind) → Option k.Payload
  | .enrollResponse => some EnrollResponse.rejected
  | .configResponse => some ConfigResponse.rejected
  | .registerResponse => some RegisterResponse.rejected
  | .heartbeatAck => some HeartbeatAck.rejected
  | _ => none

/-- How to find the device id in a request that carries one. -/
def deviceId? : (k : Kind) → Option (k.Payload → String)
  | .enrollRequest => some EnrollRequest.deviceId
  | .configRequest => some ConfigRequest.deviceId
  | .registerRequest => some RegisterRequest.deviceId
  | .heartbeatReport => some HeartbeatReport.deviceId
  | _ => none

end Message.Kind

structure Message where
  kind : Message.Kind
  payload : kind.Payload
  deriving DecidableEq

namespace Message

/-- The payload, if the message is of a kind. -/
def as? (k : Kind) (m : Message) : Option k.Payload :=
  if h : m.kind = k then some (h ▸ m.payload) else none

def toJson? (m : Message) : Option Json := m.kind.encode? m.payload

/-- The message that carries nothing. -/
def empty : Message := ⟨.empty, ()⟩

end Message

end DeviceAdmission
