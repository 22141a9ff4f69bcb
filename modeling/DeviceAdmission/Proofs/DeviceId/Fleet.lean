import DeviceAdmission.DeviceId.Policy
import DeviceAdmission.DeviceId.Registry

/-!
# The requests that devices send

`Registry.fleet` is built entry by entry and searched by kind. `DeviceRequest` names the four
requests outright: the method each belongs to, the id it carries and the response that says no.

* `lookup_fleet`: the search finds an entry for exactly these messages, and it finds that method,
  that id and that response, in value and in its encoding.
-/
namespace DeviceAdmission.DeviceId

open Message

/-- A message that devices send, with its method, the id in it and the response that says no. -/
inductive DeviceRequest : Message → String → String → Message → Prop where
  | enroll (m : EnrollRequest) : DeviceRequest ⟨.enrollRequest, m⟩ Method.enroll.path m.deviceId
      ⟨.enrollResponse, EnrollResponse.rejected⟩
  | getConfig (m : ConfigRequest) : DeviceRequest ⟨.configRequest, m⟩ Method.getConfig.path
      m.deviceId ⟨.configResponse, ConfigResponse.rejected⟩
  | register (m : RegisterRequest) : DeviceRequest ⟨.registerRequest, m⟩ Method.register.path
      m.deviceId ⟨.registerResponse, RegisterResponse.rejected⟩
  | heartbeat (m : HeartbeatReport) : DeviceRequest ⟨.heartbeatReport, m⟩ Method.heartbeat.path
      m.deviceId ⟨.heartbeatAck, HeartbeatAck.rejected⟩

/-- The encoding of a response on the wire: the octets of its compact JSON text. -/
def encodedResponse (answer : Message) : List UInt8 :=
  answer.toJson?.elim [] fun json => json.render.toUTF8.data.toList

namespace Registry

/-- What an entry of the fleet's register says of a message. -/
structure Describes (field : Field) (rpc : String) (answer : Message) : Prop where
  rpc : field.rpc = rpc
  rejection : field.rejection = answer
  details : field.rejectionDetails = encodedResponse answer

/-- The search finds what the requests say of themselves. -/
theorem lookup_fleet {message answer : Message} {rpc id : String}
    (sent : DeviceRequest message rpc id answer) :
    ∃ field, fleet.lookup message = some (field, id) ∧ Describes field rpc answer := by
  cases sent <;> exact ⟨_, rfl, rfl, rfl, rfl⟩

/-- It finds nothing else. -/
theorem lookup_fleet_none {message : Message}
    (unsent : ∀ rpc id answer, ¬ DeviceRequest message rpc id answer) :
    fleet.lookup message = none := by
  rcases message with ⟨kind, payload⟩
  cases kind
  case enrollRequest => exact (unsent _ _ _ (.enroll payload)).elim
  case configRequest => exact (unsent _ _ _ (.getConfig payload)).elim
  case registerRequest => exact (unsent _ _ _ (.register payload)).elim
  case heartbeatReport => exact (unsent _ _ _ (.heartbeat payload)).elim
  all_goals rfl

end Registry

end DeviceAdmission.DeviceId
