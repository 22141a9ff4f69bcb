import DeviceAdmission.Proofs.Delegate.Pinned
import DeviceAdmission.Proofs.Gate.Admission
import DeviceAdmission.Proofs.Gate.FrontEnds

/-!
# What a refused caller can see

A delegate turns a caller away with a failure of its own. Its code, its classes, its notes and its
texts say why, and the caller need not know. Of a refusal a caller gets the public view, the message
and, over gRPC, the status; two refusals that agree on these are `Alike`, whatever else they hold.

* `Refusal.alike_of_shown`: the code, the message, the status number, the correlation id and the
  details (`Refusal.shown`) are all that can be seen of a refusal.
* `shown_denial`: a delegate's failure lends at most its message to what is shown of the refusal
  that stands for it.
* `denial_conceals`: so no caller learns more of the failure, of the stage itself, behind a chain
  or over gRPC. Told the fixed message, a caller of the register of pins cannot tell an unknown
  device from another certificate or a method that is not allowed.
-/
namespace DeviceAdmission

open Call (Context Instant)
open Delegate (PinRegistry PinnedDevice)

/-! ## Refusals from outside -/

namespace Refusal

/-- Two refusals tell a caller the same. -/
structure Alike (r s : Refusal) : Prop where
  view : r.failure.toPublic = s.failure.toPublic
  message : r.message = s.message
  status : r.toStatus = s.toStatus

/-- The parts of a refusal that are meant for the caller. -/
structure Shown where
  code : Failure.CodeName
  message : String
  grpcStatus : Int32
  correlationId : Option String
  details : Option (List UInt8)

def shown (r : Refusal) : Shown :=
  ⟨r.failure.code, r.failure.messageUser, r.failure.grpcStatus, r.failure.correlationId, r.details⟩

/-- Nothing else can be seen. -/
theorem alike_of_shown {r s : Refusal} (same : r.shown = s.shown) : r.Alike s := by
  simp only [shown, Shown.mk.injEq] at same
  obtain ⟨code, message, grpcStatus, correlation, details⟩ := same
  constructor
  · simp only [Failure.toPublic, code, message, correlation]
  · exact message
  · simp only [toStatus, message, grpcStatus, correlation, details]

/-- Correlation looks only at what is shown. -/
theorem shown_correlate (r : Refusal) (id : String) :
    (r.correlate id).shown =
      { r.shown with correlationId := some (r.shown.correlationId.getD id) } := by
  rw [correlate_eq]
  rfl

end Refusal

namespace Gate

/-! ## Refusals that stand for a delegate's failure -/

theorem shown_denial (detail : DenialDetail) (f : Failure) :
    (Authentication.denial detail f).shown =
      ⟨Failure.Code.permissionDenied, detail.wording f, 7, none, none⟩ := by
  unfold Authentication.denial
  cases detail <;> cases f.messageDev <;> rfl

/-- Failures that give the caller one wording. -/
theorem wording_eq {detail : DenialDetail} {f g : Failure}
    (same : detail = .forward → f.messageUser = g.messageUser) :
    detail.wording f = detail.wording g := by
  cases detail with
  | forward => exact same rfl
  | generic => rfl

theorem denial_shown_eq {detail : DenialDetail} {f g : Failure}
    (same : detail = .forward → f.messageUser = g.messageUser) :
    (Authentication.denial detail f).shown = (Authentication.denial detail g).shown := by
  rw [shown_denial, shown_denial, wording_eq same]

theorem correlate_denial_alike {detail : DenialDetail} {f g : Failure}
    (same : detail = .forward → f.messageUser = g.messageUser) (id : String) :
    ((Authentication.denial detail f).correlate id).Alike
      ((Authentication.denial detail g).correlate id) := by
  apply Refusal.alike_of_shown
  rw [Refusal.shown_correlate, Refusal.shown_correlate, denial_shown_eq same]

/-- A delegate that is asked about a call turns the caller away, before any bound of the call. -/
inductive TurnsAway (delegate : Delegate) (cx : Context) (call : Call) (now t : Instant)
    (f : Failure) : Prop where
  | intro {input : Delegate.Input} (asked : Authentication.input call = .ok input)
      (live : cx.isCancelled now = false)
      (wins : Wins cx now (delegate input).delay .work t)
      (verdict : (delegate input).verdict = .error f)

section

variable {detail : DenialDetail} {delegate : Delegate} {cx cx' : Context} {call : Call}
  {now mid t : Instant} {f : Failure} {before : Chain} {seen : List Event}

theorem handle_of_turnsAway (turned : TurnsAway delegate cx call now t f) :
    ∃ last, (Authentication.stage delegate detail).handle cx call now =
      ⟨last, some (t, .error (Authentication.denial detail f))⟩ := by
  obtain @⟨input, asked, live, wins, verdict⟩ := turned
  refine ⟨[.consulted input, .denied ⟨cx.requestId, input.method, input.deviceId, f.toAudit⟩], ?_⟩
  simp only [Authentication.stage, asked, authenticate_of_error detail live wins verdict]
  rfl

/-- Behind other stages the refusal gets the request id, and the stages after it play no part. -/
theorem run_of_turnsAway (rest : Chain) (passed : Chain.Passes call before cx now seen mid cx')
    (turned : TurnsAway delegate cx' call mid t f) :
    ∃ last, Chain.run (before ++ Authentication.stage delegate detail :: rest) cx call now =
      ⟨last, some (t, .error ((Authentication.denial detail f).correlate cx.requestId))⟩ := by
  obtain ⟨last, handled⟩ := handle_of_turnsAway turned
  exact ⟨_, Chain.run_of_fails (.intro passed handled)⟩

theorem serveUnary_of_turnsAway {α : Type} (rest : Chain) {fresh method : String}
    {request : Grpc.Request}
    (handler : Context → Grpc.Request → Instant → Run (Except Grpc.Status α))
    (passed : Chain.Passes (request.call method) before (request.context fresh now) now seen mid
      cx')
    (turned : TurnsAway delegate cx' (request.call method) mid t f) :
    ∃ last, Chain.serveUnary (before ++ Authentication.stage delegate detail :: rest) fresh method
      request handler now = ⟨last, some (t, .error ((Authentication.denial detail f).correlate
        (request.context fresh now).requestId).toStatus)⟩ := by
  obtain ⟨last, handled⟩ := handle_of_turnsAway turned
  exact ⟨_, (Chain.serveUnary_guards _ fresh method request handler now).refused
    (.intro passed handled)⟩

end

/-! ## What stays with the delegate -/

/-- What a caller cannot learn where delegates' failures are worded by `detail`: all that follows is
about two failures whose messages are the same, unless they are not forwarded anyway. -/
structure Conceals (detail : DenialDetail) : Prop where
  /-- The stage refuses for either of two delegates, and in the same way. -/
  stage : ∀ {delegate other cx call now t u f g},
    TurnsAway delegate cx call now t f → TurnsAway other cx call now u g →
    (detail = .forward → f.messageUser = g.messageUser) →
    ∃ r s, ((Authentication.stage delegate detail).handle cx call now).ending =
        some (t, .error r) ∧
      ((Authentication.stage other detail).handle cx call now).ending = some (u, .error s) ∧
      r.Alike s
  /-- So does a chain that the stage stands in. -/
  chain : ∀ {delegate other before cx cx' call now mid seen t u f g} (rest : Chain),
    Chain.Passes call before cx now seen mid cx' →
    TurnsAway delegate cx' call mid t f → TurnsAway other cx' call mid u g →
    (detail = .forward → f.messageUser = g.messageUser) →
    ∃ r s, (Chain.run (before ++ Authentication.stage delegate detail :: rest) cx call now).ending =
        some (t, .error r) ∧
      (Chain.run (before ++ Authentication.stage other detail :: rest) cx call now).ending =
        some (u, .error s) ∧
      r.Alike s
  /-- Over gRPC the caller gets one status. -/
  served : ∀ {α : Type} {delegate other before cx' fresh method request now mid seen t u f g}
    (rest : Chain) (handler : Context → Grpc.Request → Instant → Run (Except Grpc.Status α)),
    Chain.Passes (request.call method) before (request.context fresh now) now seen mid cx' →
    TurnsAway delegate cx' (request.call method) mid t f →
    TurnsAway other cx' (request.call method) mid u g →
    (detail = .forward → f.messageUser = g.messageUser) →
    ∃ status,
      (Chain.serveUnary (before ++ Authentication.stage delegate detail :: rest) fresh method
        request handler now).ending = some (t, .error status) ∧
      (Chain.serveUnary (before ++ Authentication.stage other detail :: rest) fresh method
        request handler now).ending = some (u, .error status)
  /-- Of any refusal at all, these parts stay hidden. -/
  hidden : ∀ (r : Refusal) kind messageDev httpStatus retryable severity notes, r.Alike { r with
    failure := { r.failure with kind, messageDev, httpStatus, retryable, severity, notes } }
  /-- Whatever two registers hold against two calls that share a context: where the message is the
  fixed one, the standard gate refuses both at once and alike. -/
  pinned : ∀ {config : Config} {pins others : PinRegistry} {cx call call' now input input' f g},
    config.authentication.denialDetail = .generic → cx.isCancelled now = false →
    Presents config call input → Presents config call' input' →
    pins.Declines input f → others.Declines input' g →
    ∃ r s, ((standard config pins.delegate).run cx call now).ending = some (now, .error r) ∧
      ((standard config others.delegate).run cx call' now).ending = some (now, .error s) ∧
      r.Alike s

theorem denial_conceals (detail : DenialDetail) : Conceals detail where
  stage turned again same := by
    obtain ⟨_, here⟩ := handle_of_turnsAway turned
    obtain ⟨_, there⟩ := handle_of_turnsAway again
    exact ⟨_, _, congrArg Run.ending here, congrArg Run.ending there,
      Refusal.alike_of_shown (denial_shown_eq same)⟩
  chain rest passed turned again same := by
    obtain ⟨_, here⟩ := run_of_turnsAway rest passed turned
    obtain ⟨_, there⟩ := run_of_turnsAway rest passed again
    exact ⟨_, _, congrArg Run.ending here, congrArg Run.ending there,
      correlate_denial_alike same _⟩
  served rest handler passed turned again same := by
    obtain ⟨_, here⟩ := serveUnary_of_turnsAway rest handler passed turned
    obtain ⟨_, there⟩ := serveUnary_of_turnsAway rest handler passed again
    rw [(correlate_denial_alike same _).status] at here
    exact ⟨_, congrArg Run.ending here, congrArg Run.ending there⟩
  hidden r kind messageDev httpStatus retryable severity notes := Refusal.alike_of_shown rfl
  pinned := by
    intro config pins others cx call call' now input input' f g fixed live presents presents'
      declines declines'
    have refused := (PinRegistry.judge_eq_error_iff pins input f).2 declines
    have refused' := (PinRegistry.judge_eq_error_iff others input' g).2 declines'
    rw [run_standard_of_decision (.denied presents live (wins_at_once live) refused),
      run_standard_of_decision (.denied presents' live (wins_at_once live) refused'), fixed]
    exact ⟨_, _, rfl, rfl, Refusal.alike_of_shown rfl⟩

/-- A gate that tells every caller the fixed message. -/
def reticent : Config := { authentication := { denialDetail := .generic } }

/-- A device that nobody knows and one that may call nothing are told the same. -/
theorem unknown_and_barred_alike :
    ∃ r s,
      ((standard reticent PinRegistry.empty.delegate).run (.ofRequestId "req-1")
        (callAs "edge-007" Message.Method.listDevices.path .empty) 0).ending =
          some (0, .error r) ∧
      ((standard reticent (PinRegistry.empty.pinWithMethods "edge-007"
        leafCertificate.fingerprint []).delegate).run (.ofRequestId "req-1")
        (callAs "edge-007" Message.Method.listDevices.path .empty) 0).ending =
          some (0, .error s) ∧
      r.Alike s := by
  have wellFormed : WellFormed reticent .empty := by
    rintro rpc id answer ⟨⟩
  have presents : Presents reticent (callAs "edge-007" Message.Method.listDevices.path .empty)
      ⟨Message.Method.listDevices.path, "edge-007", [leafCertificate]⟩ :=
    callAs_presents (by decide) wellFormed
  have barred : ¬ PinnedDevice.Allows ⟨"edge-007", leafCertificate.fingerprint, some []⟩
      Message.Method.listDevices.path := by
    simp [PinnedDevice.Allows]
  exact (denial_conceals .generic).pinned rfl rfl presents presents (.unknown rfl)
    (.barred (by simp [PinRegistry.pinWithMethods]) rfl rfl barred)

end Gate

end DeviceAdmission
