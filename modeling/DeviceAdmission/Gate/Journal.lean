import DeviceAdmission.Gate.Chain
import DeviceAdmission.Log.Record

/-!
# The journal of a gate

The log records that calls leave behind. A caller that its delegate turned away is the only event of
a call that is recorded, with the audit view of the delegate's own failure, whatever the caller is
told.
-/
namespace DeviceAdmission.Gate

/-- The target of records about authentication. -/
def authenticationTarget : String := "fleetgate::authn"

def Denial.record (d : Denial) : Log.Record where
  level := .warn
  target := authenticationTarget
  message := "device authentication failed"
  fields :=
    [("request_id", d.requestId), ("method", d.method), ("device_id", d.deviceId),
      ("error", d.error.diagnostic)]

namespace Event

/-- The record of an event, if it leaves one. -/
def record? : Event → Option Log.Record
  | .denied d => some d.record
  | .consulted _ | .handled .. => none

end Event

/-- The records of a run, in their order. -/
def Run.records {α : Type} (r : Run α) : List Log.Record := r.events.filterMap Event.record?

/-- The record of a chain that is ready for calls. -/
def Chain.assembled (chain : Chain) : Log.Record where
  level := .debug
  target := "fleetgate::gate"
  message := "admission chain assembled"
  fields := [("stages", Text.Diagnostic.list (chain.names.map Text.Quoted.text))]

end DeviceAdmission.Gate
