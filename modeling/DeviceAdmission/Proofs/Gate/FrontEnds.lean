import DeviceAdmission.Proofs.Gate.Passage

/-!
# The two front ends of a chain

`Chain.runWithHandler` answers callers in the process and `Chain.serveUnary` answers gRPC requests.
They are written apart, and each must ask the stages first, invoke its handler once for a call that
every stage passes, and never touch the handler otherwise. `Guards` says this once, for any handler
and any wording of refusals, in terms of what the stages do (`Passes`, `Fails`, `Stalls`).

* `runWithHandler_guards`, `serveUnary_guards`: each front end guards its handler.
* `toRejection_agrees_toStatus`: the two wordings of one refusal tell the caller the same.
* `front_ends_refuse_alike`: both facts about every chain, and about one gRPC request that is put to
  both front ends with the context it brings.
-/
namespace DeviceAdmission

open Call (Context Instant)

/-! ## Correlated refusals -/

theorem Failure.correlate_eq (f : Failure) (id : String) :
    f.correlate id = { f with correlationId := some (f.correlationId.getD id) } := by
  rcases f with ⟨_, _, _, _, _, _, _, _, _, _ | own⟩ <;> rfl

/-- A refusal gets the id only if it has none, and keeps everything else. -/
theorem Refusal.correlate_eq (r : Refusal) (id : String) :
    r.correlate id = { r with failure :=
      { r.failure with correlationId := some (r.failure.correlationId.getD id) } } := by
  rw [Refusal.correlate, Failure.correlate_eq]

namespace Gate

/-- A rejection and a status tell a caller the same. -/
structure Agree {k : Message.Kind} (rejection : Rejection k) (status : Grpc.Status) : Prop where
  code : status.code = .ofInt rejection.failure.grpcStatus.toInt
  message : status.message = rejection.failure.messageUser
  /-- The correlation id travels as the request id if it is a legal header value. -/
  correlation : status.metadata? Call.requestIdKey =
    rejection.failure.correlationId.filter Grpc.isHeaderText

theorem toRejection_agrees_toStatus (r : Refusal) (k : Message.Kind) :
    Agree (r.toRejection k) r.toStatus := by
  refine ⟨rfl, rfl, ?_⟩
  cases h : r.failure.correlationId with
  | none => simp [Refusal.toRejection, Refusal.toStatus, Grpc.Status.metadata?, h]
  | some id =>
    by_cases legal : Grpc.isHeaderText id <;>
      simp [Refusal.toRejection, Refusal.toStatus, Grpc.Status.metadata?, Option.filter, h, legal]

namespace Chain

/-- What a front end with a chain makes of a call: `invoke` is the handler at work, `answer` what
becomes of the handler's own outcome, and `refuse` how a refusal is worded. -/
structure Guards {β ε α : Type} (chain : Chain) (cx : Context) (call : Call) (now : Instant)
    (invoke : Context → Instant → Run β) (answer : β → Except ε α) (refuse : Refusal → ε)
    (outcome : Run (Except ε α)) : Prop where
  /-- The handler runs once, after the stages, with the context that they leave. -/
  admitted : ∀ {seen t cx'}, Passes call chain cx now seen t cx' →
    outcome = ⟨seen ++ .handled call.method call.message cx' t :: (invoke cx' t).events,
      (invoke cx' t).ending.map fun (s, result) => (s, answer result)⟩
  /-- The handler never runs; the caller gets the failing stage's refusal. -/
  refused : ∀ {seen t refusal}, Fails call chain cx now seen t refusal →
    outcome = ⟨seen, some (t, .error (refuse (refusal.correlate cx.requestId)))⟩
  /-- The handler never runs. -/
  stalled : ∀ {seen}, Stalls call chain cx now seen → outcome = ⟨seen, none⟩

theorem runWithHandler_guards (chain : Chain) (k : Message.Kind)
    (handler : Context → Call → Instant → Run (Except Refusal k.Payload)) (cx : Context)
    (call : Call) (now : Instant) :
    Guards chain cx call now (fun cx t => handler cx call t)
      (fun result => result.mapError fun r => (r.correlate cx.requestId).toRejection k)
      (·.toRejection k) (chain.runWithHandler k handler cx call now) where
  admitted passed := by
    rw [runWithHandler, run_of_passes passed, Run.andThen_ended]
    simp [Run.after, Run.map, passed.requestId]
  refused failed := by
    rw [runWithHandler, run_of_fails failed, Run.andThen_ended]
    simp [Run.after, Run.done]
  stalled stuck := by
    rw [runWithHandler, run_of_stalls stuck, Run.andThen_endless]

theorem serveUnary_guards {α : Type} (chain : Chain) (fresh method : String)
    (request : Grpc.Request)
    (handler : Context → Grpc.Request → Instant → Run (Except Grpc.Status α)) (now : Instant) :
    Guards chain (request.context fresh now) (request.call method) now
      (fun cx t => handler cx request t) id Refusal.toStatus
      (chain.serveUnary fresh method request handler now) where
  admitted passed := by
    rw [serveUnary, run_of_passes passed, Run.andThen_ended]
    simp [Run.after, Grpc.Request.call]
  refused failed := by
    rw [serveUnary, run_of_fails failed, Run.andThen_ended]
    simp [Run.after, Run.done]
  stalled stuck := by
    rw [serveUnary, run_of_stalls stuck, Run.andThen_endless]

/-- What holds of the two front ends of a chain. -/
structure FrontEnds (chain : Chain) : Prop where
  /-- The chain admits exactly the calls that every stage passes on. -/
  admits : ∀ {cx call now seen t cx'}, chain.run cx call now = ⟨seen, some (t, .ok cx')⟩ ↔
    Passes call chain cx now seen t cx'
  /-- It refuses exactly those that a stage refuses, with that stage's refusal. -/
  refuses : ∀ {cx call now seen t told}, chain.run cx call now = ⟨seen, some (t, .error told)⟩ ↔
    ∃ refusal, Fails call chain cx now seen t refusal ∧ told = refusal.correlate cx.requestId
  /-- And it leaves those without an end that a stage holds up. -/
  stalls : ∀ {cx call now seen}, chain.run cx call now = ⟨seen, none⟩ ↔
    Stalls call chain cx now seen
  /-- In the process a handler's failure gets the request id if it has no correlation id. -/
  inProcess : ∀ (k : Message.Kind) handler cx call now,
    Guards chain cx call now (fun cx t => handler cx call t)
      (fun result => result.mapError fun r => (r.correlate cx.requestId).toRejection k)
      (·.toRejection k) (chain.runWithHandler k handler cx call now)
  /-- Over gRPC a handler's outcome is left alone. -/
  remote : ∀ (α : Type) fresh method request now
    (handler : Context → Grpc.Request → Instant → Run (Except Grpc.Status α)),
    Guards chain (request.context fresh now) (request.call method) now
      (fun cx t => handler cx request t) id Refusal.toStatus
      (chain.serveUnary fresh method request handler now)
  /-- A gRPC request that is put to both with the context it brings is refused by both, at the same
  instant, with one failure and in agreeing words. -/
  alike : ∀ (α : Type) (k : Message.Kind) fresh method request now handler
    (remote : Context → Grpc.Request → Instant → Run (Except Grpc.Status α)) seen t refusal,
    Fails (request.call method) chain (request.context fresh now) now seen t refusal →
    ∃ rejection status,
      chain.runWithHandler k handler (request.context fresh now) (request.call method) now =
        ⟨seen, some (t, .error rejection)⟩ ∧
      chain.serveUnary fresh method request remote now = ⟨seen, some (t, .error status)⟩ ∧
      rejection.failure = (refusal.correlate (request.context fresh now).requestId).failure ∧
      Agree rejection status
  /-- Correlation fills in an id that is missing, and changes nothing else. -/
  correlates : ∀ (refusal : Refusal) id, refusal.correlate id = { refusal with failure :=
    { refusal.failure with correlationId := some (refusal.failure.correlationId.getD id) } }

/-- Both front ends of every chain run their handler once for exactly the calls that the chain
admits, and they refuse the others alike. -/
theorem front_ends_refuse_alike (chain : Chain) : FrontEnds chain where
  admits := run_ok_iff
  refuses := run_error_iff
  stalls := run_endless_iff
  inProcess := chain.runWithHandler_guards
  remote _ fresh method request now handler :=
    chain.serveUnary_guards fresh method request handler now
  alike α k fresh method request now handler remote seen t refusal failed := by
    have here := (chain.runWithHandler_guards k handler _ _ now).refused failed
    have there := (chain.serveUnary_guards fresh method request remote now).refused failed
    exact ⟨_, _, here, there, rfl, toRejection_agrees_toStatus _ k⟩
  correlates := Refusal.correlate_eq

end Chain

end Gate

end DeviceAdmission
