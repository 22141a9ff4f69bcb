import DeviceAdmission.Proofs.DeviceId.Policy
import DeviceAdmission.Proofs.Gate.PinHistory

/-!
# The two device ids in a call

A device names itself twice: in the payload of the requests that devices send, and in the metadata
of every call. The format check of the standard gate reads the payload, and authentication the
metadata. Neither reads both, and the gate does not bring the two together.

* `consulted_iff`: whom the delegate is asked about, and when.
* `claimed_id_vetted`: the id that the delegate is asked about is the one in the metadata, which is
  not empty. That is all that is asked of it; the policy is kept by the id in the payload.
* `malformed_id_admitted`: so a device is admitted under an id that breaks the policy.
* `payload_id_free`: the gate admits a caller as the device that its delegate knows, and any other
  payload that keeps the policy would do as well.
* `other_device_admitted`: so a device is admitted with a request that names another.
-/
namespace DeviceAdmission.Gate

open Call (Context Instant)
open DeviceId (DeviceRequest Policy)
open Delegate (PinRegistry)

section

variable {config : Config} {delegate : Delegate} {cx : Context} {call : Call} {now : Instant}
  {input : Delegate.Input}

/-! ## Who is asked about -/

/-- A call whose payload breaks the policy gets no further. -/
theorem not_presents_of_broken {answer : Message} {rpc id : String}
    {violation : DeviceId.Violation} (sent : DeviceRequest call.message rpc id answer)
    (broken : config.policy.check id = .error violation) : ¬ Presents config call input := by
  intro presents
  have kept := presents.wellFormed rpc id answer sent
  rw [broken] at kept
  cases kept

theorem not_presents_of_unreadable {refusal : Refusal}
    (unreadable : Authentication.input call = .error refusal) : ¬ Presents config call input := by
  intro presents
  have read := presents.input_eq
  rw [unreadable] at read
  cases read

/-- The delegate is asked about what a call presents, unless the call is cancelled already. -/
theorem consulted_iff :
    Event.consulted input ∈ ((standard config delegate).run cx call now).events ↔
      Presents config call input ∧ cx.isCancelled now = false := by
  obtain ⟨r, decided⟩ := decision_exists config delegate cx call now
  rw [run_standard_of_decision decided]
  have asked {other : Delegate.Input} (presents : Presents config call other)
      (live : cx.isCancelled now = false) :
      input = other ↔ Presents config call input ∧ cx.isCancelled now = false := by
    constructor
    · rintro rfl
      exact ⟨presents, live⟩
    · rintro ⟨again, -⟩
      exact again.unique presents
  cases decided with
  | malformed sent broken => simp [not_presents_of_broken sent broken]
  | unpeered _ peer => simp [not_presents_of_unreadable (input_of_unpeered peer)]
  | unnamed _ peer chained unnamed =>
    simp [not_presents_of_unreadable (input_of_unnamed peer chained unnamed)]
  | cancelled _ cancelled => simp [cancelled]
  | interrupted presents live => simpa using asked presents live
  | expired presents live => simpa using asked presents live
  | denied presents live => simpa using asked presents live
  | admitted presents live => simpa using asked presents live
  | unanswered presents live => simpa using asked presents live

/-- By then the id in the payload keeps the policy of the fleet. -/
theorem WellFormed.accepts {message answer : Message} {rpc id : String}
    (wellFormed : WellFormed config message) (sent : DeviceRequest message rpc id answer) :
    config.policy.accepts id = true ∧ Policy.default.accepts id = true := by
  have kept := wellFormed rpc id answer sent
  rw [Policy.check_eq_ok_iff] at kept
  rw [Policy.accepts_iff, Policy.accepts_iff]
  exact ⟨kept, config.policy_tightens_default.accepted kept⟩

/-- Where the caller is accepted at once nothing comes before that. -/
theorem run_of_accepted {identity : Identity} (presents : Presents config call input)
    (live : cx.isCancelled now = false)
    (accepts : delegate input = .now (.ok identity)) :
    (standard config delegate).run cx call now =
      ⟨[.consulted input], some (now, .ok { cx with identity := some identity })⟩ := by
  have wins : Wins cx now (delegate input).delay .work now := by
    rw [accepts]
    exact wins_at_once live
  exact run_standard_of_decision (.admitted presents live wins (by rw [accepts]; rfl))

/-- A device that is pinned to its certificate is admitted as itself. -/
theorem admitsAs_of_pinned {id : String} {leaf : Certificate}
    (presents : Presents config call input) (live : cx.isCancelled now = false)
    (claimed : input.deviceId = id) (presented : input.chain.leaf? = some leaf) :
    AdmitsAs ((standard config (PinRegistry.empty.pin id leaf.fingerprint).delegate).run cx call
      now) id := by
  have pinned : ∃ identity,
      (PinRegistry.empty.pin id leaf.fingerprint).judge input = .ok identity := by
    refine (PinRegistry.judge_eq_ok_iff _ input leaf presented).2
      ⟨⟨id, leaf.fingerprint, none⟩, ?_, rfl, nofun⟩
    simp [PinRegistry.pin, claimed]
  obtain ⟨identity, judged⟩ := pinned
  rw [run_of_accepted presents live (congrArg Delegate.Answer.now judged)]
  exact ⟨now, _, identity, rfl, rfl, (PinRegistry.deviceId_of_judge judged).trans claimed⟩

/-- Of a payload that keeps the policy nothing else matters. -/
theorem run_standard_with_message {message : Message} (kept : WellFormed config message)
    (wellFormed : WellFormed config call.message) :
    (standard config delegate).run cx { call with message } now =
      (standard config delegate).run cx call now := by
  rw [run_standard_of_wellFormed wellFormed, run_standard_of_wellFormed kept]
  rfl

end

/-! ## A gate for one device -/

/-- The default gate before a register in which one device is pinned to the certificate. -/
def gateOf (id : String) : Chain :=
  standard {} (PinRegistry.empty.pin id leafCertificate.fingerprint).delegate

theorem gateOf_admitsAs {id method : String} {message : Message} (named : id ≠ "")
    (wellFormed : WellFormed {} message) :
    AdmitsAs ((gateOf id).run (.ofRequestId "req-1") (callAs id method message) 0) id := by
  have presents : Presents {} (callAs id method message) ⟨method, id, [leafCertificate]⟩ :=
    callAs_presents named wellFormed
  rw [gateOf]
  exact admitsAs_of_pinned presents rfl rfl rfl

/-! ## The id in the metadata -/

/-- What the standard gate has seen to by the time it asks its delegate or admits a call. -/
structure Vets (config : Config) (delegate : Delegate) (cx : Context) (call : Call)
    (now : Instant) : Prop where
  /-- The delegate is asked about the first id in the metadata, as it was sent and not empty. -/
  asked : ∀ input,
    Event.consulted input ∈ ((standard config delegate).run cx call now).events →
    (call.metadata Call.deviceIdKey).head? = some input.deviceId ∧ input.deviceId ≠ ""
  /-- Nobody is admitted unasked. -/
  admitted : ∀ t cx', ((standard config delegate).run cx call now).ending = some (t, .ok cx') →
    ∃ input, Event.consulted input ∈ ((standard config delegate).run cx call now).events
  /-- The id in the payload, of the requests that devices send, keeps the policy of the fleet. -/
  payload : ∀ input,
    Event.consulted input ∈ ((standard config delegate).run cx call now).events →
    ∀ rpc id answer, DeviceRequest call.message rpc id answer → Policy.default.accepts id = true
  /-- The id in the metadata need not: whatever it is made of, the delegate is asked about it, and
  if the delegate accepts it at once, the call is admitted. -/
  unvetted : ∀ chain id, WellFormed config call.message → call.peer = some chain → chain ≠ [] →
    (call.metadata Call.deviceIdKey).head? = some id → id ≠ "" → cx.isCancelled now = false →
    Event.consulted ⟨call.method, id, chain⟩ ∈
      ((standard config delegate).run cx call now).events ∧
    ∀ identity, delegate ⟨call.method, id, chain⟩ = .now (.ok identity) →
      ((standard config delegate).run cx call now).ending =
        some (now, .ok { cx with identity := some identity })

theorem claimed_id_vetted (config : Config) (delegate : Delegate) (cx : Context) (call : Call)
    (now : Instant) : Vets config delegate cx call now where
  asked input consulted := by
    have presents := (consulted_iff.1 consulted).1
    exact ⟨presents.claimed, presents.named⟩
  admitted t cx' ends := by
    obtain ⟨input, _, presents, live, -⟩ := presents_of_admitted ends
    exact ⟨input, consulted_iff.2 ⟨presents, live⟩⟩
  payload input consulted rpc id answer sent :=
    ((consulted_iff.1 consulted).1.wellFormed.accepts sent).2
  unvetted chain id wellFormed peer chained claimed named live := by
    have presents : Presents config call ⟨call.method, id, chain⟩ :=
      ⟨wellFormed, rfl, peer, chained, claimed, named⟩
    refine ⟨consulted_iff.2 ⟨presents, live⟩, fun identity accepts => ?_⟩
    rw [run_of_accepted presents live accepts]

/-- The delegate is asked about an id with a forbidden character, and the caller admitted under it,
with a request that devices send and with one that they do not. -/
theorem malformed_id_admitted :
    Policy.default.accepts "edge/007" = false ∧
    Event.consulted ⟨Message.Method.listDevices.path, "edge/007", [leafCertificate]⟩ ∈
      ((gateOf "edge/007").run (.ofRequestId "req-1")
        (callAs "edge/007" Message.Method.listDevices.path ⟨.listDevicesRequest, {}⟩) 0).events ∧
    AdmitsAs ((gateOf "edge/007").run (.ofRequestId "req-1")
      (callAs "edge/007" Message.Method.listDevices.path ⟨.listDevicesRequest, {}⟩) 0) "edge/007" ∧
    AdmitsAs ((gateOf "edge/007").run (.ofRequestId "req-1")
      (callAs "edge/007" Message.Method.heartbeat.path
        ⟨.heartbeatReport, { deviceId := "edge-007" }⟩) 0) "edge/007" := by
  have named : "edge/007" ≠ "" := by decide
  have listing : WellFormed {} ⟨.listDevicesRequest, {}⟩ := by
    rintro rpc id answer ⟨⟩
  have heartbeat : WellFormed {} ⟨.heartbeatReport, { deviceId := "edge-007" }⟩ := by
    rintro rpc id answer ⟨⟩
    rfl
  refine ⟨by decide, consulted_iff.2 ⟨callAs_presents named listing, rfl⟩, ?_, ?_⟩
  · exact gateOf_admitsAs named listing
  · exact gateOf_admitsAs named heartbeat

/-! ## The id in the payload -/

/-- What being admitted says about the two ids in a call. -/
structure Correlates (config : Config) (delegate : Delegate) (cx : Context) (call : Call)
    (now : Instant) : Prop where
  /-- The delegate accepted the caller for the first id in the metadata, with the method and the
  chain of the call, and the handler is told whom the delegate knows. -/
  admitted : ∀ t cx', ((standard config delegate).run cx call now).ending = some (t, .ok cx') →
    ∃ input identity, (call.metadata Call.deviceIdKey).head? = some input.deviceId ∧
      input.method = call.method ∧ call.peer = some input.chain ∧
      (delegate input).verdict = .ok identity ∧ cx'.identity = some identity
  /-- The id in the payload keeps the policy of the gate. -/
  payload : ∀ t cx', ((standard config delegate).run cx call now).ending = some (t, .ok cx') →
    ∀ rpc id answer, DeviceRequest call.message rpc id answer → config.policy.accepts id = true
  /-- It is not compared with the other: with any payload that keeps the policy the gate decides
  as with this one. -/
  uncompared : ∀ message, WellFormed config message → WellFormed config call.message →
    (standard config delegate).run cx { call with message } now =
      (standard config delegate).run cx call now

theorem payload_id_free (config : Config) (delegate : Delegate) (cx : Context) (call : Call)
    (now : Instant) : Correlates config delegate cx call now where
  admitted t cx' ends := by
    obtain ⟨input, identity, presents, -, accepted, known⟩ := presents_of_admitted ends
    exact ⟨input, identity, presents.claimed, presents.method, presents.peer, accepted, known⟩
  payload t cx' ends rpc id answer sent := by
    obtain ⟨_, _, presents, -⟩ := presents_of_admitted ends
    exact (presents.wellFormed.accepts sent).1
  uncompared _ kept wellFormed := run_standard_with_message kept wellFormed

/-- A device gets in with a heartbeat that speaks for another one. -/
theorem other_device_admitted :
    DeviceRequest ⟨.heartbeatReport, { deviceId := "edge-008" }⟩ Message.Method.heartbeat.path
      "edge-008" ⟨.heartbeatAck, {}⟩ ∧
    "edge-008" ≠ "edge-007" ∧
    AdmitsAs ((gateOf "edge-007").run (.ofRequestId "req-1")
      (callAs "edge-007" Message.Method.heartbeat.path
        ⟨.heartbeatReport, { deviceId := "edge-008" }⟩) 0) "edge-007" := by
  have heartbeat : WellFormed {} ⟨.heartbeatReport, { deviceId := "edge-008" }⟩ := by
    rintro rpc id answer ⟨⟩
    rfl
  exact ⟨.heartbeat { deviceId := "edge-008" }, by decide, gateOf_admitsAs (by decide) heartbeat⟩

end DeviceAdmission.Gate
