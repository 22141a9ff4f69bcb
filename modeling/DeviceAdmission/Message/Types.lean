/-!
# Fleet messages

The requests that devices and operators send and the responses they get. A response to a device has
a rejected value, which says no in the terms of that response.
-/
namespace DeviceAdmission.Message

/-- The full names of the service's methods. -/
inductive Method where
  | enroll | getConfig | register | heartbeat | listDevices
  deriving DecidableEq, Repr

def Method.path : Method → String
  | .enroll => "/fleet.v1.FleetService/Enroll"
  | .getConfig => "/fleet.v1.FleetService/GetConfig"
  | .register => "/fleet.v1.FleetService/Register"
  | .heartbeat => "/fleet.v1.FleetService/Heartbeat"
  | .listDevices => "/fleet.v1.FleetService/ListDevices"

structure EnrollRequest where
  deviceId : String := ""
  /-- A certificate signing request. -/
  csr : String := ""
  labels : List String := []
  deriving DecidableEq, Repr

inductive EnrollStatus where
  | unspecified | accepted | pending | refused
  deriving DecidableEq, Repr

structure EnrollResponse where
  status : EnrollStatus := .unspecified
  certificatePem : Option String := none
  deriving DecidableEq, Repr

def EnrollResponse.rejected : EnrollResponse := ⟨.refused, none⟩

structure ConfigRequest where
  deviceId : String := ""
  knownRevision : UInt64 := 0
  deriving DecidableEq, Repr

structure ConfigResponse where
  revision : UInt64 := 0
  document : String := ""
  deriving DecidableEq, Repr

def ConfigResponse.rejected : ConfigResponse := {}

structure RegisterRequest where
  deviceId : String := ""
  hardwareModel : String := ""
  firmwareVersion : String := ""
  deriving DecidableEq, Repr

structure RegisterResponse where
  registered : Bool := false
  fleetId : Option String := none
  deriving DecidableEq, Repr

def RegisterResponse.rejected : RegisterResponse := ⟨false, none⟩

structure HeartbeatReport where
  deviceId : String := ""
  uptimeSecs : UInt64 := 0
  healthy : Bool := false
  deriving DecidableEq, Repr

structure HeartbeatAck where
  deriving DecidableEq, Repr

def HeartbeatAck.rejected : HeartbeatAck := {}

/-- Sent by operators; it carries no device id. -/
structure ListDevicesRequest where
  pageSize : UInt32 := 0
  pageToken : String := ""
  deriving DecidableEq, Repr

structure ListDevicesResponse where
  deviceIds : List String := []
  nextPageToken : String := ""
  deriving DecidableEq, Repr

end DeviceAdmission.Message
