import DeviceAdmission.DeviceId.Policy
import DeviceAdmission.DeviceId.Registry
import DeviceAdmission.Gate.Run

/-!
# Stages

A stage lets a call proceed, establishes who is calling, or refuses. The format check looks at the
device id in the payload of registered requests; authentication asks a delegate about the device id
in the metadata and the peer's chain.
-/
namespace DeviceAdmission.Gate

open Call (Context Instant)

inductive Outcome where
  | proceed
  | authenticated (identity : Identity)

structure Stage where
  name : String
  handle : Context → Call → Instant → Run (Except Refusal Outcome)

/-! ## The format check -/

namespace FormatCheck

/-- The refusal of a malformed id, with the rejection of the request's entry. -/
def refusal (field : DeviceId.Field) (violation : DeviceId.Violation) : Refusal :=
  (((((Refusal.invalidArgument "invalid device id").withDev violation.message).withNote "rpc"
    (.text field.rpc)).withNote "rule" (.text violation.rule)).withResponse
      field.rejection).withDetails field.rejectionDetails

/-- Checks the id in the payload of a registered request. -/
def check (registry : DeviceId.Registry) (policy : DeviceId.Policy) (message : Message) :
    Except Refusal Unit :=
  match registry.lookup message with
  | none => .ok ()
  | some (field, id) =>
    match policy.check id with
    | .ok _ => .ok ()
    | .error violation => .error (refusal field violation)

def stage (registry : DeviceId.Registry) (policy : DeviceId.Policy) : Stage where
  name := "device_id_guard"
  handle _ call now :=
    Run.done now ((check registry policy call.message).map fun _ => .proceed)

end FormatCheck

/-! ## Authentication -/

/-- The peer's chain; an absent or empty one is refused. -/
def peerChain (call : Call) : Except Refusal Certificate.Chain :=
  match call.peer with
  | some (leaf :: rest) => .ok (leaf :: rest)
  | _ =>
    .error ((Refusal.permissionDenied "missing peer certificates").withNote "reason"
      (.text "missing_peer_certificate"))

/-- The claimed device id: the first value of its key, which must not be empty. -/
def claimedId (call : Call) : Except Refusal String :=
  let missing : Except Refusal String :=
    .error ((Refusal.permissionDenied "cannot retrieve device id from metadata").withNote "reason"
      (.text "missing_device_id"))
  match call.metadata Call.deviceIdKey with
  | [] => missing
  | id :: _ => if id.isEmpty then missing else .ok id

/-- What a caller is told when its delegate turns it away. -/
inductive DenialDetail where
  /-- The delegate's own message. -/
  | forward
  /-- A fixed message. -/
  | generic
  deriving DecidableEq, Repr

namespace Authentication

/-- The fixed message. -/
def genericDenial : String := "device authentication failed"

/-- What the delegate is asked about a call. -/
def input (call : Call) : Except Refusal Delegate.Input := do
  let chain ← peerChain call
  let deviceId ← claimedId call
  return ⟨call.method, deviceId, chain⟩

/-- The refusal that stands for a delegate's failure. The delegate's code and message for the logs
go with it; its classes, notes and correlation id do not. -/
def denial (detail : DenialDetail) (f : Failure) : Refusal :=
  let message := match detail with
    | .forward => f.messageUser
    | .generic => genericDenial
  let denied := ((Refusal.permissionDenied message).withNote "reason"
    (.text "delegate_denied")).withNote "delegate_code" (.text f.code.name)
  match f.messageDev with
  | some dev => denied.withDev dev
  | none => denied

/-- Asks the delegate within the bounds of the call. -/
def authenticate (delegate : Delegate) (detail : DenialDetail) (cx : Context)
    (input : Delegate.Input) (now : Instant) : Run (Except Refusal Identity) :=
  let answer := delegate input
  let work : Work (Except Failure Identity) := ⟨[.consulted input], answer.verdict, answer.delay⟩
  (bounded cx now work).andThen fun now result =>
    match result with
    | .error refusal => Run.done now (.error refusal)
    | .ok (.ok identity) => Run.done now (.ok identity)
    | .ok (.error f) =>
      Run.after [.denied ⟨cx.requestId, input.method, input.deviceId, f.toAudit⟩]
        (Run.done now (.error (denial detail f)))

def stage (delegate : Delegate) (detail : DenialDetail) : Stage where
  name := "device_authn"
  handle cx call now :=
    match input call with
    | .error refusal => Run.done now (.error refusal)
    | .ok given =>
      (authenticate delegate detail cx given now).map fun result =>
        result.map Outcome.authenticated

end Authentication

end DeviceAdmission.Gate
