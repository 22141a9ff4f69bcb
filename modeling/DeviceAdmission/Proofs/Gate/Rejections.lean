import DeviceAdmission.Proofs.DeviceId.Registrations
import DeviceAdmission.Proofs.Gate.Admission
import DeviceAdmission.Proofs.Gate.FrontEnds

/-!
# The rejection that comes with a malformed id

The format check finds an entry by the kind of a message, lays the entry's rejection into its refusal
as a message of any type, and lays its encoding beside it. A caller in the process gets the rejection
back if it expects that type, a caller over gRPC gets the encoding. Here both are traced to the last
registration for the kind of the request, whatever was registered before or for other kinds.

* `check_of_malformed`, `check_of_unconcerned`: what the format check makes of a message.
* `run_of_malformed`, `run_of_unconcerned`: and a chain that begins with it.
* `rejected_as_registered`: what the two front ends of such a chain answer.
-/
namespace DeviceAdmission.Gate

open Call (Context Instant)
open DeviceId (Carries IsLast Policy Registration Registry Violation)

/-- The failure that stands for a malformed id. -/
def malformed (rpc : String) (violation : Violation) (requestId : String) : Failure :=
  { about .invalidArgument requestId with
    messageUser := "invalid device id", messageDev := some violation.message,
    notes := [("rpc", .text rpc), ("rule", .text violation.rule)] }

/-- The refusal of a malformed id has the rejection twice, as a value and encoded. -/
def malformedRefusal (field : DeviceId.Field) (violation : Violation) (requestId : String) :
    Refusal where
  failure := malformed field.rpc violation requestId
  response := some ⟨field.response, field.rejected⟩
  details := some (field.encode field.rejected)

/-- The chain that begins with the format check. -/
def checkedFirst (history : List Registration) (policy : Policy) (rest : Chain) : Chain :=
  FormatCheck.stage (Registry.ofHistory history) policy :: rest

/-- The format check has nothing to say about a message: nobody registered its kind, or the id in it
keeps the policy. -/
inductive Unconcerned (history : List Registration) (policy : Policy) : Message → Prop where
  | unregistered {message : Message} (none : ∀ reg ∈ history, reg.field.request ≠ message.kind) :
      Unconcerned history policy message
  | kept {reg : Registration} {payload : reg.field.request.Payload} (last : IsLast history reg)
      (kept : policy.check (reg.field.extract payload) = .ok ()) :
      Unconcerned history policy ⟨reg.field.request, payload⟩

section

variable {history : List Registration} {policy : Policy} {reg : Registration}
  {payload : reg.field.request.Payload} {violation : Violation} {cx : Context} {call : Call}
  {now : Instant}

theorem check_of_malformed (last : IsLast history reg)
    (broken : policy.check (reg.field.extract payload) = .error violation) :
    FormatCheck.check (Registry.ofHistory history) policy ⟨reg.field.request, payload⟩ =
      .error (FormatCheck.refusal reg.field violation) := by
  simp only [FormatCheck.check, Registry.lookup_of_isLast last payload, broken]

theorem check_of_unconcerned {message : Message} (free : Unconcerned history policy message) :
    FormatCheck.check (Registry.ofHistory history) policy message = .ok () := by
  cases free with
  | unregistered none => simp only [FormatCheck.check, Registry.lookup_of_unregistered none]
  | @kept reg payload last kept =>
    simp only [FormatCheck.check, Registry.lookup_of_isLast last payload, kept]

theorem run_of_malformed (rest : Chain) (last : IsLast history reg)
    (message : call.message = ⟨reg.field.request, payload⟩)
    (broken : policy.check (reg.field.extract payload) = .error violation) :
    (checkedFirst history policy rest).run cx call now =
      ⟨[], some (now, .error (malformedRefusal reg.field violation cx.requestId))⟩ := by
  have refused : FormatCheck.check (Registry.ofHistory history) policy call.message =
      .error (FormatCheck.refusal reg.field violation) := by
    rw [message, check_of_malformed last broken]
  rw [checkedFirst, Chain.run_cons_error _ (FormatCheck.handle_of_error refused)]
  rfl

theorem run_of_unconcerned (rest : Chain) (free : Unconcerned history policy call.message) :
    (checkedFirst history policy rest).run cx call now = rest.run cx call now := by
  have passed := check_of_unconcerned free
  rw [checkedFirst, Chain.run_cons_ok _ (FormatCheck.handle_of_ok passed), Run.after_nil]
  rfl

end

/-- What callers get of the rejections that were registered, from chains that begin with the format
check. -/
structure RejectsAsRegistered (history : List Registration) (policy : Policy) : Prop where
  /-- A request of a registered kind with a malformed id is refused with one failure, whatever
  response its caller expects. If it is the kind of response of the last registration, the caller
  gets the rejection of that registration; otherwise it gets none. -/
  inProcess : ∀ reg (payload : reg.field.request.Payload) violation,
    IsLast history reg → policy.check (reg.field.extract payload) = .error violation →
    ∀ rest (call : Call) cx now, call.message = ⟨reg.field.request, payload⟩ →
    (∀ handler, (checkedFirst history policy rest).runWithHandler reg.field.response handler cx call
      now = ⟨[], some (now, .error
        ⟨malformed reg.field.rpc violation cx.requestId, some reg.field.rejected⟩)⟩) ∧
    ∀ k handler, k ≠ reg.field.response →
      (checkedFirst history policy rest).runWithHandler k handler cx call now =
        ⟨[], some (now, .error ⟨malformed reg.field.rpc violation cx.requestId, none⟩)⟩
  /-- Over gRPC its caller gets the encoding of the same rejection, with the same failure. -/
  remote : ∀ reg (payload : reg.field.request.Payload) violation,
    IsLast history reg → policy.check (reg.field.extract payload) = .error violation →
    ∀ (α : Type) rest (request : Grpc.Request) fresh method now
      (handler : Context → Grpc.Request → Instant → Run (Except Grpc.Status α)),
    request.message = ⟨reg.field.request, payload⟩ →
    ∃ status, (checkedFirst history policy rest).serveUnary fresh method request handler now =
        ⟨[], some (now, .error status)⟩ ∧
      status.details = reg.field.encode reg.field.rejected ∧
      @Agree reg.field.response
        ⟨malformed reg.field.rpc violation (request.context fresh now).requestId,
          some reg.field.rejected⟩ status
  /-- A plain registration encodes the rejection as the JSON that it is written as, -/
  written : ∀ rpc request extract response rejected write,
    Carries (write rejected)
      ((Registration.plain rpc request extract response rejected write).field.encode rejected)
  /-- of which a caller that expects a response of the fleet reads the rejection again. -/
  readable : ∀ rpc request extract response (form : Wire.Form response.Payload) rejected,
    response.form? = some form → ∃ text, form.parse text = .ok rejected ∧
      (Registration.plain rpc request extract response rejected response.encode?).field.encode
        rejected = text.toUTF8.data.toList
  /-- Any other message is left to the rest of the chain, by either front end. -/
  unconcerned : ∀ rest (call : Call), Unconcerned history policy call.message →
    (∀ cx now, (FormatCheck.stage (Registry.ofHistory history) policy).handle cx call now =
      ⟨[], some (now, .ok .proceed)⟩) ∧
    (∀ k handler cx now, (checkedFirst history policy rest).runWithHandler k handler cx call now =
      rest.runWithHandler k handler cx call now) ∧
    ∀ (α : Type) (request : Grpc.Request) fresh method now
      (handler : Context → Grpc.Request → Instant → Run (Except Grpc.Status α)),
      request.call method = call →
      (checkedFirst history policy rest).serveUnary fresh method request handler now =
        rest.serveUnary fresh method request handler now
  /-- There are no other messages. -/
  complete : ∀ message, Unconcerned history policy message ∨
    ∃ reg payload violation, IsLast history reg ∧ message = ⟨reg.field.request, payload⟩ ∧
      policy.check (reg.field.extract payload) = .error violation

theorem rejected_as_registered (history : List Registration) (policy : Policy) :
    RejectsAsRegistered history policy where
  inProcess reg payload violation last broken rest call cx now message := by
    have refused := @run_of_malformed history policy reg payload violation cx call now rest last
      message broken
    refine ⟨fun handler => ?_, fun k handler other => ?_⟩
    · rw [Chain.runWithHandler, refused, Run.andThen_ended]
      simp [Run.done, malformedRefusal, Refusal.toRejection, Message.as?]
    · rw [Chain.runWithHandler, refused, Run.andThen_ended]
      simp [Run.done, malformedRefusal, Refusal.toRejection, Message.as?, Ne.symm other]
  remote reg payload violation last broken α rest request fresh method now handler message := by
    have refused := @run_of_malformed history policy reg payload violation
      (request.context fresh now) (request.call method) now rest last message broken
    have agree := toRejection_agrees_toStatus
      (malformedRefusal reg.field violation (request.context fresh now).requestId)
      reg.field.response
    refine ⟨(malformedRefusal reg.field violation (request.context fresh now).requestId).toStatus,
      ?_, rfl, ?_⟩
    · rw [Chain.serveUnary, refused, Run.andThen_ended]
      rfl
    · simpa [malformedRefusal, Refusal.toRejection, Message.as?] using agree
  written _ _ _ _ rejected write := DeviceId.carries_encodeJson write rejected
  readable _ _ _ _ _ rejected known := DeviceId.parse_of_encodeJson known rejected
  unconcerned rest call free := by
    refine ⟨fun cx now => ?_, fun k handler cx now => ?_, ?_⟩
    · exact FormatCheck.handle_of_ok (check_of_unconcerned free)
    · rw [Chain.runWithHandler, run_of_unconcerned rest free, Chain.runWithHandler]
    · rintro α request fresh method now handler rfl
      rw [Chain.serveUnary, run_of_unconcerned rest free, Chain.serveUnary]
  complete message := by
    rcases Registry.isLast_or_unregistered history message.kind with ⟨reg, last, kind⟩ | none
    · obtain ⟨k, payload⟩ := message
      dsimp only at kind
      subst kind
      cases judged : policy.check (reg.field.extract payload) with
      | ok _ => exact .inl (.kept last judged)
      | error violation => exact .inr ⟨reg, payload, violation, last, rfl, judged⟩
    · exact .inl (.unregistered none)

end DeviceAdmission.Gate
