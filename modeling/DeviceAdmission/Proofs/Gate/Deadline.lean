import DeviceAdmission.Proofs.Delegate.Pinned
import DeviceAdmission.Proofs.Gate.Admission

/-!
# Calls whose deadline has passed

A call can come to the standard gate with its deadline in the past. Work is looked at before the
timer of the deadline, so that the deadline counts only against a delegate that is not ready by the
time its timer fires. A delegate that answers at once, as the register of pins and the reader of
common names do, decides as if there were no deadline, and its caller reaches the handler.

* `expires_iff`: a call that gets as far as the delegate is refused for its deadline, and no handler
  sees it, exactly if the timer fires before the delegate is ready and before a cancellation counts.
* `elapsed_expires_iff`: on a whole millisecond, an elapsed deadline refuses exactly the calls whose
  delegate does not answer at once.
* `elapsed_admits`: a device that is pinned passes the gate after its deadline.
-/
namespace DeviceAdmission.Gate

open Call (Context Instant Duration)
open Delegate (PinRegistry)

/-! ## Refused for the deadline -/

/-- A handler was invoked. -/
def Handled (events : List Event) : Prop :=
  ∃ method message cx now, Event.handled method message cx now ∈ events

/-- The chain refuses a call for its deadline, and neither front end lets a handler see it. -/
structure Expires (chain : Chain) (cx : Context) (call : Call) (now : Instant) : Prop where
  refused : ∃ seen t, chain.run cx call now =
    ⟨seen, some (t, .error { failure := about .deadlineExceeded cx.requestId })⟩
  unhandled : ∀ k handler, ¬ Handled (chain.runWithHandler k handler cx call now).events
  unserved : ∀ (α : Type) fresh method (request : Grpc.Request)
    (handler : Context → Grpc.Request → Instant → Run (Except Grpc.Status α)),
    request.context fresh now = cx → request.call method = call →
    ¬ Handled (chain.serveUnary fresh method request handler now).events

theorem not_handled_consulted (input : Delegate.Input) : ¬ Handled [.consulted input] := by
  rintro ⟨method, message, cx, now, member⟩
  simp at member

section

variable {config : Config} {delegate : Delegate} {cx : Context} {call : Call} {now t : Instant}
  {input : Delegate.Input}

/-- A refusal keeps the call from both kinds of handler. -/
theorem expires_of_run {chain : Chain} (ran : chain.run cx call now = ⟨[.consulted input],
    some (t, .error { failure := about .deadlineExceeded cx.requestId })⟩) :
    Expires chain cx call now where
  refused := ⟨_, t, ran⟩
  unhandled k handler := by
    rw [Chain.runWithHandler, ran]
    exact not_handled_consulted input
  unserved α fresh method request handler own same := by
    rw [Chain.serveUnary, own, same, ran]
    exact not_handled_consulted input

/-- Only the deadline leads to its refusal. -/
theorem wins_of_refused {seen : List Event} (presents : Presents config call input)
    (live : cx.isCancelled now = false)
    (refused : (standard config delegate).run cx call now =
      ⟨seen, some (t, .error { failure := about .deadlineExceeded cx.requestId })⟩) :
    Wins cx now (delegate input).delay .deadline t := by
  obtain ⟨r, decided⟩ := decision_exists config delegate cx call now
  rw [run_standard_of_decision decided] at refused
  cases decided with
  | expired same _ wins =>
    cases refused
    rwa [presents.unique same]
  | cancelled _ cancelled =>
    rw [live] at cancelled
    cases cancelled
  | _ =>
    -- every other decision ends otherwise, or with another code
    have ended := congrArg (·.ending) refused
    simp [about, Failure.ofCode, Failure.Code.name] at ended

/-- When the timer of a deadline fires first. -/
theorem wins_deadline_iff {deadline : Instant} {delay : Option Duration}
    (bound : cx.deadline = some deadline) :
    (∃ t, Wins cx now delay .deadline t) ↔
      (∀ d, delay = some d → fires now deadline < now + d) ∧
      ∀ c, cx.cancelledAt = some c → fires now deadline < c := by
  constructor
  · rintro ⟨t, wins⟩
    have own : fires now deadline = t := by
      simpa [occurs, bound] using wins.occurs
    subst own
    constructor
    · rintro d rfl
      exact (wins.first .work _ rfl).resolve_right fun tie => absurd tie.2 (by decide)
    · intro c cancelled
      exact (wins.first .cancellation c cancelled).resolve_right fun tie => absurd tie.2 (by decide)
  · rintro ⟨work, cancellation⟩
    refine ⟨fires now deadline, by simp [occurs, bound], ?_⟩
    rintro (_ | _ | _) s happens
    · obtain ⟨d, taken, rfl⟩ := Option.map_eq_some_iff.1 happens
      exact .inl (work d taken)
    · exact .inl (cancellation s happens)
    · obtain ⟨d, same, rfl⟩ := Option.map_eq_some_iff.1 happens
      cases bound.symm.trans same
      exact .inr ⟨rfl, Nat.le_refl _⟩

/-- A call that gets as far as the delegate is refused for its deadline exactly if the timer fires
before the delegate is ready and before a cancellation counts. -/
theorem expires_iff {deadline : Instant} (presents : Presents config call input)
    (live : cx.isCancelled now = false) (bound : cx.deadline = some deadline) :
    Expires (standard config delegate) cx call now ↔
      (∀ d, (delegate input).delay = some d → fires now deadline < now + d) ∧
      ∀ c, cx.cancelledAt = some c → fires now deadline < c := by
  rw [← wins_deadline_iff bound]
  constructor
  · rintro ⟨⟨seen, t, refused⟩, -, -⟩
    exact ⟨t, wins_of_refused presents live refused⟩
  · rintro ⟨t, wins⟩
    exact expires_of_run (run_standard_of_decision (.expired presents live wins))

/-! ## Ready at once -/

/-- A caller that its delegate accepts at once reaches the handler, whatever its deadline. -/
theorem handled_at_once {identity : Identity} (presents : Presents config call input)
    (live : cx.isCancelled now = false) (immediate : (delegate input).delay = some 0)
    (verdict : (delegate input).verdict = .ok identity) (k : Message.Kind)
    (handler : Context → Call → Instant → Run (Except Refusal k.Payload)) :
    Handled ((standard config delegate).runWithHandler k handler cx call now).events := by
  have wins : Wins cx now (delegate input).delay .work now := immediate ▸ wins_at_once live
  rw [Chain.runWithHandler, run_standard_of_decision (.admitted presents live wins verdict)]
  exact ⟨call.method, call.message, { cx with identity := some identity }, now, by simp⟩

/-! ## A heartbeat that comes too late -/

/-- A heartbeat of a device, with a certificate for its id. -/
def lateHeartbeat : Call :=
  (MemoryCall.mk Message.Method.heartbeat.path [(Call.deviceIdKey, "edge-007")]
    (some [⟨[108, 101, 97, 102]⟩]) ⟨.heartbeatReport, { deviceId := "edge-007" }⟩).view

/-- The deadline of the call is the start of the clock. -/
def lateContext : Context := (Context.ofRequestId "req-1").withDeadline 0

def heartbeatInput : Delegate.Input :=
  ⟨Message.Method.heartbeat.path, "edge-007", [⟨[108, 101, 97, 102]⟩]⟩

theorem lateHeartbeat_presents : Presents {} lateHeartbeat heartbeatInput where
  wellFormed := by
    rintro rpc id answer ⟨⟩
    rfl
  method := rfl
  peer := rfl
  chained := nofun
  claimed := by decide +kernel
  named := by decide

/-- The register in which the device is pinned. -/
def heartbeatPins : PinRegistry :=
  PinRegistry.empty.pin "edge-007" (Certificate.fingerprint ⟨[108, 101, 97, 102]⟩)

theorem heartbeatPins_accept : ∃ identity, heartbeatPins.judge heartbeatInput = .ok identity := by
  refine (PinRegistry.judge_eq_ok_iff _ heartbeatInput ⟨[108, 101, 97, 102]⟩ rfl).2
    ⟨⟨"edge-007", Certificate.fingerprint ⟨[108, 101, 97, 102]⟩, none⟩, ?_, rfl, nofun⟩
  simp [heartbeatPins, heartbeatInput, PinRegistry.pin]

/-! ## Deadlines in the past -/

/-- A call that comes with its deadline in the past is refused for it, unless the delegate is ready
or a cancellation counts by the time the timer fires. On a whole millisecond only a delegate that
answers at once is, and whoever it accepts reaches the handler. -/
theorem elapsed_expires_iff {deadline : Instant} (presents : Presents config call input)
    (live : cx.isCancelled now = false) (bound : cx.deadline = some deadline)
    (elapsed : deadline ≤ now) :
    (Expires (standard config delegate) cx call now ↔
      (∀ d, (delegate input).delay = some d → fires now deadline < now + d) ∧
      ∀ c, cx.cancelledAt = some c → fires now deadline < c) ∧
    (tick now = now →
      (Expires (standard config delegate) cx call now ↔ (delegate input).delay ≠ some 0)) ∧
    ((delegate input).delay = some 0 → ∀ identity, (delegate input).verdict = .ok identity →
      ∀ k handler,
        Handled ((standard config delegate).runWithHandler k handler cx call now).events) := by
  have exactly : Expires (standard config delegate) cx call now ↔ _ :=
    expires_iff presents live bound
  refine ⟨exactly, fun whole => ?_, fun immediate _ verdict k handler =>
    handled_at_once presents live immediate verdict k handler⟩
  rw [exactly, fires_elapsed whole elapsed]
  constructor
  · rintro ⟨work, -⟩ immediate
    exact Nat.lt_irrefl now (work 0 immediate)
  · intro slow
    constructor
    · intro d taken
      refine Nat.lt_add_of_pos_right (Nat.pos_of_ne_zero ?_)
      rintro rfl
      exact slow taken
    · exact fun c cancelled => lt_of_live live cancelled

/-- A delegate that never answers leaves the call to its deadline. -/
theorem elapsed_expires_unanswered :
    Presents {} lateHeartbeat heartbeatInput ∧ lateContext.isCancelled 0 = false ∧
    lateContext.deadline = some 0 ∧
    Expires (standard {} fun _ => ⟨.error (Failure.ofCode .unauthenticated), none⟩) lateContext
      lateHeartbeat 0 := by
  refine ⟨lateHeartbeat_presents, rfl, rfl, ?_⟩
  have decided := @elapsed_expires_iff {} (fun _ => ⟨.error (Failure.ofCode .unauthenticated), none⟩)
    lateContext lateHeartbeat 0 heartbeatInput 0 lateHeartbeat_presents rfl rfl (Nat.le_refl 0)
  exact (decided.2.1 rfl).2 nofun

/-- The register of pins answers at once, and lets the late call through to every handler. -/
theorem elapsed_admits :
    Presents {} lateHeartbeat heartbeatInput ∧ lateContext.isCancelled 0 = false ∧
    lateContext.deadline = some 0 ∧
    ¬ Expires (standard {} heartbeatPins.delegate) lateContext lateHeartbeat 0 ∧
    ∀ k handler, Handled ((standard {} heartbeatPins.delegate).runWithHandler k handler lateContext
      lateHeartbeat 0).events := by
  obtain ⟨identity, accepted⟩ := heartbeatPins_accept
  have live : lateContext.isCancelled 0 = false := rfl
  have handled := handled_at_once lateHeartbeat_presents live
    (heartbeatPins.delegate_delay heartbeatInput)
    ((heartbeatPins.delegate_verdict heartbeatInput).trans accepted)
  refine ⟨lateHeartbeat_presents, live, rfl, fun expires => ?_, handled⟩
  have handler : Context → Call → Instant → Run (Except Refusal Unit) :=
    fun _ _ now => Run.done now (.ok ())
  exact expires.unhandled .empty handler (handled .empty handler)

end

end DeviceAdmission.Gate
