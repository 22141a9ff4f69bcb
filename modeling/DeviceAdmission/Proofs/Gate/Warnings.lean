import DeviceAdmission.Gate.Journal
import DeviceAdmission.Proofs.Failure.Audit
import DeviceAdmission.Proofs.Gate.Admission
import DeviceAdmission.Proofs.Gate.Composition

/-!
# What the logs say of callers that were turned away

A chain of format checks and authentication stages (`Guard`) asks delegates about a call. Each time
is an `Inquiry`; it is lost to the delegate when the delegate's failure wins the race against the
bounds of the call. This module says that the warnings about authentication are the inquiries lost
that way, in order, and nothing else.

* `Guard.handle_of_failure`, `Guard.handle_of_no_failure`: what one stage leaves in the logs, and how
  the refusal it gives is marked.
* `run_leaves`: a chain leaves the events of the inquiries that it makes; at most one of them is
  denied, and that ends the call.
* `records_of_leaves`: so the records of a call are those of its denials.
* `Denial.warning_alike`: the record of a denial tells all that the denial holds.
* `warnings_are_denials`: so it is for any sequence of calls, through any chains.
-/
namespace DeviceAdmission.Gate

open Call (Context Instant)

/-! ## Stages of the gate and what they ask -/

/-- A stage of the gate with its settings. -/
inductive Guard where
  | formatCheck (registry : DeviceId.Registry) (policy : DeviceId.Policy)
  | authentication (delegate : Delegate) (detail : DenialDetail)

def Guard.stage : Guard → Stage
  | .formatCheck registry policy => FormatCheck.stage registry policy
  | .authentication delegate detail => Authentication.stage delegate detail

/-- A delegate that is asked about a call. -/
structure Inquiry where
  delegate : Delegate
  input : Delegate.Input
  context : Context
  start : Instant

namespace Inquiry

/-- The failure of the delegate, if that is what ends the inquiry. -/
def failure? (q : Inquiry) : Option Failure :=
  match race q.context q.start (q.delegate q.input).delay, (q.delegate q.input).verdict with
  | some (_, .work), .error f => some f
  | _, _ => none

/-- What is noted of a failure of the delegate. -/
def denialOf (q : Inquiry) (f : Failure) : Denial :=
  ⟨q.context.requestId, q.input.method, q.input.deviceId, f.toAudit⟩

def denial? (q : Inquiry) : Option Denial := q.failure?.map q.denialOf

/-- What the inquiry leaves among the events. -/
def events (q : Inquiry) : List Event :=
  .consulted q.input :: (q.denial?.map Event.denied).toList

theorem failure?_eq_some_iff (q : Inquiry) (f : Failure) : q.failure? = some f ↔
    (q.delegate q.input).verdict = .error f ∧
      ∃ t, Wins q.context q.start (q.delegate q.input).delay .work t := by
  simp only [← race_eq_some_iff]
  unfold failure?
  rcases race q.context q.start (q.delegate q.input).delay with _ | ⟨t, _ | _ | _⟩ <;>
    cases (q.delegate q.input).verdict <;> simp

theorem denial?_eq_some_iff (q : Inquiry) (d : Denial) : q.denial? = some d ↔
    ∃ f, q.failure? = some f ∧ d = q.denialOf f := by
  simp only [denial?, Option.map_eq_some_iff, @eq_comm _ d]

end Inquiry

/-- The inquiry that a stage makes about a call, if it comes to that. -/
def Guard.inquiry? (call : Call) (cx : Context) (now : Instant) : Guard → Option Inquiry
  | .formatCheck _ _ => none
  | .authentication delegate _ =>
    match Authentication.input call with
    | .error _ => none
    | .ok input => if cx.isCancelled now then none else some ⟨delegate, input, cx, now⟩

/-- What a delegate is asked stands in the call. -/
structure StandsIn (call : Call) (input : Delegate.Input) : Prop where
  method : input.method = call.method
  peer : call.peer = some input.chain
  claimed : (call.metadata Call.deviceIdKey).head? = some input.deviceId

theorem standsIn_of_input {call : Call} {input : Delegate.Input}
    (read : Authentication.input call = .ok input) : StandsIn call input := by
  simp only [Authentication.input, bind, Except.bind] at read
  rcases peer : peerChain call with _ | chain
  · simp [peer] at read
  · rcases claimed : claimedId call with _ | id
    · simp [peer, claimed] at read
    · simp only [peer, claimed, pure, Except.pure, Except.ok.injEq] at read
      subst read
      refine ⟨rfl, ?_, ?_⟩
      · unfold peerChain at peer
        split at peer
        · rename_i given
          cases peer
          exact given
        · cases peer
      · unfold claimedId at claimed
        split at claimed
        · cases claimed
        · rename_i first others values
          split at claimed <;> cases claimed
          simp [values]

theorem Guard.inquiry?_eq_some_iff {g : Guard} {call : Call} {cx : Context} {now : Instant}
    {q : Inquiry} : g.inquiry? call cx now = some q ↔
      ∃ delegate detail input, g = .authentication delegate detail ∧
        Authentication.input call = .ok input ∧ cx.isCancelled now = false ∧
        q = ⟨delegate, input, cx, now⟩ := by
  cases g with
  | formatCheck registry policy => simp [inquiry?]
  | authentication delegate detail =>
    unfold inquiry?
    rcases Authentication.input call with refusal | input
    · simp
    · cases cx.isCancelled now <;> simp [@eq_comm _ q]

/-! ## The mark of a denial -/

/-- The note that tells a denial from every other refusal. -/
def IsDenial (r : Refusal) : Prop :=
  Json.lookup r.failure.notes "reason" = some (.text "delegate_denied")

theorem isDenial_correlate_iff (r : Refusal) (id : String) :
    IsDenial (r.correlate id) ↔ IsDenial r := by
  rw [Refusal.correlate_eq]
  rfl

theorem isDenial_denial (detail : DenialDetail) (f : Failure) :
    IsDenial (Authentication.denial detail f) := by
  unfold IsDenial Authentication.denial
  cases detail <;> cases f.messageDev <;> rfl

theorem not_isDenial_of_reason {r : Refusal} {reason : String}
    (notes : r.failure.notes = [("reason", .text reason)]) (other : reason ≠ "delegate_denied") :
    ¬ IsDenial r := by
  simp [IsDenial, notes, Json.lookup, other]

theorem not_isDenial_check {registry : DeviceId.Registry} {policy : DeviceId.Policy}
    {message : Message} {r : Refusal}
    (refused : FormatCheck.check registry policy message = .error r) : ¬ IsDenial r := by
  unfold FormatCheck.check at refused
  rcases found : registry.lookup message with _ | ⟨field, id⟩
  · simp [found] at refused
  · cases judged : policy.check id with
    | ok _ => simp [found, judged] at refused
    | error violation =>
      simp only [found, judged, Except.error.injEq] at refused
      subst refused
      have notes : (FormatCheck.refusal field violation).failure.notes =
          [("rpc", .text field.rpc), ("rule", .text violation.rule)] := rfl
      simp [IsDenial, notes, Json.lookup]

theorem not_isDenial_input {call : Call} {r : Refusal}
    (refused : Authentication.input call = .error r) : ¬ IsDenial r := by
  simp only [Authentication.input, bind, Except.bind] at refused
  rcases peer : peerChain call with missing | chain
  · simp only [peer, Except.error.injEq] at refused
    subst refused
    unfold peerChain at peer
    split at peer <;> cases peer
    exact not_isDenial_of_reason rfl (by decide)
  · rcases claimed : claimedId call with missing | id
    · simp only [peer, claimed, Except.error.injEq] at refused
      subst refused
      unfold claimedId at claimed
      split at claimed
      · cases claimed
        exact not_isDenial_of_reason rfl (by decide)
      · split at claimed <;> cases claimed
        exact not_isDenial_of_reason rfl (by decide)
    · simp [peer, claimed, pure, Except.pure] at refused

theorem not_isDenial_outcome {α : Type} {value : α} {w : Winner} {r : Refusal}
    (cut : w.outcome value = .error r) : ¬ IsDenial r := by
  cases w with
  | work => cases cut
  | cancellation | deadline =>
    cases cut
    rintro ⟨⟩

/-- What is made of the value of a run marks no refusal. -/
theorem not_isDenial_map {α β : Type} {r : Run (Except Refusal α)} (f : α → β)
    (spared : ∀ t refusal, r.ending = some (t, .error refusal) → ¬ IsDenial refusal) (t : Instant)
    (refusal : Refusal)
    (refused : (r.map fun result => result.map f).ending = some (t, .error refusal)) :
    ¬ IsDenial refusal := by
  simp only [Run.map, Option.map_eq_some_iff, Prod.exists, Prod.mk.injEq] at refused
  obtain ⟨_, result, ended, rfl, told⟩ := refused
  cases result with
  | ok value => cases told
  | error refusal =>
    cases told
    exact spared _ _ ended

/-! ## One stage -/

/-- A delegate that is asked and whose failure does not end the inquiry. -/
theorem authenticate_of_no_failure {q : Inquiry} (detail : DenialDetail)
    (live : q.context.isCancelled q.start = false) (unfailed : q.failure? = none) :
    (Authentication.authenticate q.delegate detail q.context q.input q.start).events =
        [.consulted q.input] ∧
      ∀ t r, (Authentication.authenticate q.delegate detail q.context q.input q.start).ending =
        some (t, .error r) → ¬ IsDenial r := by
  rcases ran : race q.context q.start (q.delegate q.input).delay with _ | ⟨t, w⟩
  · rw [authenticate_of_never detail live ((race_eq_none_iff ..).1 ran)]
    exact ⟨rfl, fun t r refused => by simp at refused⟩
  · have wins := (race_eq_some_iff ..).1 ran
    cases decided : w.outcome (q.delegate q.input).verdict with
    | error refusal =>
      rw [authenticate_of_bound detail live wins decided]
      refine ⟨rfl, fun t r refused => ?_⟩
      have told : refusal = r := by simpa using congrArg (Option.map Prod.snd) refused
      exact told ▸ not_isDenial_outcome decided
    | ok verdict =>
      cases w with
      | cancellation | deadline => simp [Winner.outcome] at decided
      | work =>
        have same : (q.delegate q.input).verdict = verdict := Except.ok.inj decided
        cases verdict with
        | ok identity =>
          rw [authenticate_of_ok detail live wins same]
          exact ⟨rfl, fun t r refused => by simp at refused⟩
        | error f =>
          have failed := (q.failure?_eq_some_iff f).2 ⟨same, t, wins⟩
          simp [failed] at unfailed

section

variable {g : Guard} {call : Call} {cx : Context} {now : Instant}

/-- A delegate whose failure ends its inquiry leaves a denial, and a refusal with its mark. -/
theorem Guard.handle_of_failure {q : Inquiry} {f : Failure}
    (asked : g.inquiry? call cx now = some q) (failed : q.failure? = some f) :
    ∃ t detail, g.stage.handle cx call now =
      ⟨[.consulted q.input, .denied (q.denialOf f)],
        some (t, .error (Authentication.denial detail f))⟩ := by
  obtain ⟨delegate, detail, input, rfl, read, live, rfl⟩ := inquiry?_eq_some_iff.1 asked
  obtain ⟨verdict, t, wins⟩ := (Inquiry.failure?_eq_some_iff _ f).1 failed
  refine ⟨t, detail, ?_⟩
  rw [stage, Authentication.handle_of_readable read, authenticate_of_error detail live wins verdict]
  rfl

/-- Any other stage leaves at most that a delegate was asked, and no refusal with the mark. -/
theorem Guard.handle_of_no_failure
    (unfailed : (g.inquiry? call cx now).bind Inquiry.failure? = none) :
    (g.stage.handle cx call now).events =
        ((g.inquiry? call cx now).map fun q => Event.consulted q.input).toList ∧
      ∀ t r, (g.stage.handle cx call now).ending = some (t, .error r) → ¬ IsDenial r := by
  cases g with
  | formatCheck registry policy =>
    cases checked : FormatCheck.check registry policy call.message with
    | ok _ =>
      rw [stage, FormatCheck.handle_of_ok checked]
      exact ⟨rfl, fun t r refused => by cases refused⟩
    | error refusal =>
      rw [stage, FormatCheck.handle_of_error checked]
      refine ⟨rfl, fun t r refused => ?_⟩
      cases refused
      exact not_isDenial_check checked
  | authentication delegate detail =>
    cases read : Authentication.input call with
    | error refusal =>
      rw [stage, Authentication.handle_of_unreadable read]
      refine ⟨by simp [inquiry?, read], fun t r refused => ?_⟩
      cases refused
      exact not_isDenial_input read
    | ok input =>
      rw [stage, Authentication.handle_of_readable read]
      cases cancelled : cx.isCancelled now with
      | true =>
        rw [authenticate_of_cancelled detail cancelled]
        refine ⟨by simp [inquiry?, read, cancelled, Run.map],
          not_isDenial_map _ fun t r refused => ?_⟩
        cases refused
        exact @not_isDenial_outcome Unit () .cancellation _ rfl
      | false =>
        have asked : (authentication delegate detail).inquiry? call cx now =
            some ⟨delegate, input, cx, now⟩ := by
          simp [inquiry?, read, cancelled]
        rw [asked] at unfailed ⊢
        obtain ⟨events, spared⟩ := authenticate_of_no_failure detail cancelled unfailed
        exact ⟨events, not_isDenial_map _ spared⟩

end

/-! ## One call -/

/-- The chain of some stages. -/
def chainOf (guards : List Guard) : Chain := guards.map Guard.stage

/-- The inquiries that a chain makes about a call: those of the stages that it asks. -/
def inquiries (guards : List Guard) (cx : Context) (call : Call) (now : Instant) : List Inquiry :=
  (guards.zip ((chainOf guards).visits cx call now)).filterMap fun (guard, visit) =>
    guard.inquiry? call visit.context visit.start

section

variable {g : Guard} {guards : List Guard} {call : Call} {cx : Context} {now t : Instant}
  {seen : List Event}

theorem inquiries_cons_ok {outcome : Outcome}
    (handled : g.stage.handle cx call now = ⟨seen, some (t, .ok outcome)⟩) :
    inquiries (g :: guards) cx call now =
      (g.inquiry? call cx now).toList ++ inquiries guards (outcome.enrich cx) call t := by
  simp only [inquiries, chainOf, List.map_cons, Chain.visits_cons_ok handled, List.zip_cons_cons,
    List.filterMap_cons]
  cases g.inquiry? call cx now <;> rfl

/-- No stage is asked after one that did not pass the call on. -/
theorem inquiries_cons_last
    (last : (chainOf (g :: guards)).visits cx call now = [⟨g.stage, cx, now⟩]) :
    inquiries (g :: guards) cx call now = (g.inquiry? call cx now).toList := by
  simp only [inquiries, last, List.zip_cons_cons, List.zip_nil_right, List.filterMap_cons,
    List.filterMap_nil]
  cases g.inquiry? call cx now <;> rfl

/-- What inquiries leave, and whether the caller is told of a denial. -/
structure Leaves {α : Type} (qs : List Inquiry) (r : Run (Except Refusal α)) : Prop where
  events : r.events = qs.flatMap Inquiry.events
  told : (qs.filterMap Inquiry.denial? = [] ∧
      ∀ t refusal, r.ending = some (t, .error refusal) → ¬ IsDenial refusal) ∨
    (∃ d, qs.filterMap Inquiry.denial? = [d]) ∧
      ∃ t refusal, r.ending = some (t, .error refusal) ∧ IsDenial refusal

theorem Guard.handle_leaves (g : Guard) (call : Call) (cx : Context) (now : Instant) :
    Leaves (g.inquiry? call cx now).toList (g.stage.handle cx call now) := by
  cases failed : (g.inquiry? call cx now).bind Inquiry.failure? with
  | none =>
    obtain ⟨events, spared⟩ := handle_of_no_failure failed
    cases asked : g.inquiry? call cx now with
    | none => exact ⟨by simp [events, asked], .inl ⟨rfl, spared⟩⟩
    | some q =>
      have undenied : q.denial? = none := by
        simpa [asked, Inquiry.denial?] using failed
      exact ⟨by simp [events, asked, Inquiry.events, undenied],
        .inl ⟨by simp [undenied], spared⟩⟩
  | some f =>
    obtain ⟨q, asked, failed⟩ := Option.bind_eq_some_iff.1 failed
    obtain ⟨t, detail, handled⟩ := handle_of_failure asked failed
    have denied : q.denial? = some (q.denialOf f) := by simp [Inquiry.denial?, failed]
    refine ⟨by simp [asked, handled, Inquiry.events, denied], .inr ⟨⟨q.denialOf f, ?_⟩, ?_⟩⟩
    · simp [asked, denied]
    · exact ⟨t, _, by rw [handled], isDenial_denial detail f⟩

/-- The step from one stage to the chain: a stage that passes the call on has not been denied. -/
theorem run_leaves (guards : List Guard) (call : Call) (cx : Context) (now : Instant) :
    Leaves (inquiries guards cx call now) ((chainOf guards).run cx call now) := by
  induction guards generalizing cx now with
  | nil => exact ⟨rfl, .inl ⟨rfl, fun t refusal refused => by cases refused⟩⟩
  | cons g rest ih =>
    have here := g.handle_leaves call cx now
    rcases handled : g.stage.handle cx call now with ⟨seen, _ | ⟨t, refusal | outcome⟩⟩
    all_goals rw [handled] at here
    · rw [inquiries_cons_last (Chain.visits_cons_endless handled), chainOf, List.map_cons,
        Chain.run_cons_endless _ handled]
      exact ⟨here.events, here.told.imp (fun spared => ⟨spared.1, fun t r refused => by cases refused⟩)
        fun told => by simpa using told.2⟩
    · rw [inquiries_cons_last (Chain.visits_cons_error handled), chainOf, List.map_cons,
        Chain.run_cons_error _ handled]
      refine ⟨here.events, here.told.imp (fun spared => ⟨spared.1, fun t' r refused => ?_⟩)
        fun told => ⟨told.1, t, _, rfl, ?_⟩⟩
      · simp only [Option.some.injEq, Prod.mk.injEq, Except.error.injEq] at refused
        rw [← refused.2, isDenial_correlate_iff]
        exact spared.2 t refusal rfl
      · obtain ⟨_, r, same, denial⟩ := told.2
        simp only [Option.some.injEq, Prod.mk.injEq, Except.error.injEq] at same
        rw [isDenial_correlate_iff, same.2]
        exact denial
    · have undenied : (g.inquiry? call cx now).toList.filterMap Inquiry.denial? = [] := by
        rcases here.told with spared | told
        · exact spared.1
        · simp at told
      rw [inquiries_cons_ok handled, chainOf, List.map_cons, Chain.run_cons_ok _ handled]
      obtain ⟨events, told⟩ := ih (outcome.enrich cx) t
      constructor
      · rw [Run.after_events, List.flatMap_append, ← here.events]
        exact congrArg (seen ++ ·) events
      · rw [List.filterMap_append, undenied, List.nil_append]
        exact told

/-- An inquiry is made by a stage of the chain, about what stands in the call, for the caller's own
request id. -/
theorem mem_inquiries {q : Inquiry} (member : q ∈ inquiries guards cx call now) :
    (∃ detail, .authentication q.delegate detail ∈ guards) ∧
      q.context.requestId = cx.requestId ∧ StandsIn call q.input := by
  simp only [inquiries, List.mem_filterMap] at member
  obtain ⟨⟨g, v⟩, paired, made⟩ := member
  obtain ⟨delegate, detail, input, rfl, read, live, rfl⟩ := Guard.inquiry?_eq_some_iff.1 made
  obtain ⟨asked, visited⟩ := List.of_mem_zip paired
  obtain ⟨before, after, split⟩ := List.append_of_mem visited
  obtain ⟨_, _, _, _, passed, -, -⟩ := Chain.exists_of_visits split
  exact ⟨⟨detail, asked⟩, passed.requestId, standsIn_of_input read⟩

end

/-! ## Any calls -/

/-- A call that is put to a chain of stages. -/
structure Trial where
  guards : List Guard
  context : Context
  call : Call
  start : Instant

namespace Trial

def run (t : Trial) : Run (Except Refusal Context) :=
  (chainOf t.guards).run t.context t.call t.start

def inquiries (t : Trial) : List Inquiry := Gate.inquiries t.guards t.context t.call t.start

/-- The denials among the inquiries. -/
def denials (t : Trial) : List Denial := t.inquiries.filterMap Inquiry.denial?

end Trial

/-- The records that calls leave, one call after the other. -/
def journal (trials : List Trial) : List Log.Record := trials.flatMap fun t => t.run.records

/-- The warning that stands for a denial. -/
def Denial.warning (d : Denial) : Log.Record where
  level := .warn
  target := "fleetgate::authn"
  message := "device authentication failed"
  fields :=
    [("request_id", d.requestId), ("method", d.method), ("device_id", d.deviceId),
      ("error", d.error.auditText)]

theorem Denial.record_eq_warning (d : Denial) : d.record = d.warning := by
  rw [record, warning, Failure.AuditView.diagnostic_eq_auditText]
  rfl

/-- What a warning tells of two denials. -/
structure Denial.Alike (d e : Denial) : Prop where
  requestId : d.requestId = e.requestId
  method : d.method = e.method
  deviceId : d.deviceId = e.deviceId
  error : d.error.Alike e.error

theorem Denial.warning_alike {d e : Denial} (same : d.warning = e.warning) : d.Alike e := by
  simp only [warning, Log.Record.mk.injEq, List.cons.injEq, Prod.mk.injEq, true_and,
    and_true] at same
  obtain ⟨requestId, method, deviceId, error⟩ := same
  exact ⟨requestId, method, deviceId, Failure.AuditView.auditText_alike error⟩

/-- Whether a record is a warning about authentication. -/
def isAuthenticationWarning (r : Log.Record) : Bool :=
  r.level == .warn && r.target == "fleetgate::authn"

/-- The input of an event that says that a delegate was asked. -/
def Event.consulted? : Event → Option Delegate.Input
  | .consulted input => some input
  | _ => none

theorem records_of_leaves {α : Type} {qs : List Inquiry} {r : Run (Except Refusal α)}
    (leaves : Leaves qs r) :
    r.records = (qs.filterMap Inquiry.denial?).map Denial.record ∧
      r.events.filterMap Event.consulted? = qs.map (·.input) := by
  rw [Run.records, leaves.events]
  generalize qs = qs
  induction qs with
  | nil => exact ⟨rfl, rfl⟩
  | cons q rest ih =>
    rw [List.flatMap_cons, List.filterMap_append, List.filterMap_append, ih.1, ih.2]
    cases denied : q.denial? <;>
      simp [Inquiry.events, denied, Event.record?, Event.consulted?, List.filterMap_cons]

/-- A handler that leaves no records of its own changes nothing of what a call leaves. -/
theorem records_andThen {α β : Type} (r : Run α) (next : Instant → α → Run β)
    (quiet : ∀ t a, (next t a).records = []) : (r.andThen next).records = r.records := by
  rcases r with ⟨seen, _ | ⟨t, value⟩⟩
  · rfl
  · have none := quiet t value
    simp only [Run.records] at none
    simp [Run.records, none]

/-- What holds of the warnings that calls leave. -/
structure WarningsAreDenials (trials : List Trial) : Prop where
  /-- There is one for each denial, in order, and no other. -/
  warnings : (journal trials).filter isAuthenticationWarning =
    (trials.flatMap Trial.denials).map Denial.warning
  /-- A warning tells the request id, the method, the device and every part of the failure. -/
  tells : ∀ d e : Denial, d.warning = e.warning → d.Alike e
  /-- The inquiries are the consultations of delegates. -/
  consulted : ∀ t ∈ trials,
    t.run.events.filterMap Event.consulted? = t.inquiries.map (·.input)
  /-- They are made by the stages of the chain, about what stands in the call. -/
  inquired : ∀ t ∈ trials, ∀ q ∈ t.inquiries,
    (∃ detail, .authentication q.delegate detail ∈ t.guards) ∧ StandsIn t.call q.input
  /-- An inquiry is a denial if the delegate's failure wins the race. The denial holds the audit
  view of that failure, beside what the call says of itself. -/
  denied : ∀ t ∈ trials, ∀ q ∈ t.inquiries, ∀ d, q.denial? = some d ↔
    ∃ f s, (q.delegate q.input).verdict = .error f ∧
      Wins q.context q.start (q.delegate q.input).delay .work s ∧
      d = ⟨t.context.requestId, t.call.method, q.input.deviceId,
        { code := f.code, kind := f.kind, grpcStatus := f.grpcStatus, retryable := f.retryable,
          severity := f.severity, message := f.messageUser, messageDev := f.messageDev,
          notes := f.notes }⟩
  /-- A call has no denial, or one, and then it ends with the refusal that stands for it. -/
  told : ∀ t ∈ trials,
    (t.denials = [] ∧ ∀ s refusal, t.run.ending = some (s, .error refusal) → ¬ IsDenial refusal) ∨
      (∃ d, t.denials = [d]) ∧
        ∃ s refusal, t.run.ending = some (s, .error refusal) ∧ IsDenial refusal
  /-- No other refusal is taken for one. -/
  others : ∀ refusal, (∃ registry policy message,
      FormatCheck.check registry policy message = .error refusal) ∨
      (∃ call, Authentication.input call = .error refusal) ∨
      refusal = .cancelled ∨ refusal = .deadlineExceeded →
    ∀ id, ¬ IsDenial (refusal.correlate id)
  /-- In front of a handler that leaves no records the chain leaves the same ones. -/
  inProcess : ∀ t ∈ trials, ∀ (k : Message.Kind) handler,
    (∀ cx call now, (handler cx call now).records = []) →
    ((chainOf t.guards).runWithHandler k handler t.context t.call t.start).records = t.run.records
  /-- So it does over gRPC. -/
  remote : ∀ (α : Type) (guards : List Guard) fresh method (request : Grpc.Request) now
    (handler : Context → Grpc.Request → Instant → Run (Except Grpc.Status α)),
    (∀ cx request now, (handler cx request now).records = []) →
    ((chainOf guards).serveUnary fresh method request handler now).records =
      (Trial.mk guards (request.context fresh now) (request.call method) now).run.records

theorem warnings_are_denials (trials : List Trial) : WarningsAreDenials trials where
  warnings := by
    have all : ∀ r ∈ journal trials, isAuthenticationWarning r = true := by
      intro r member
      simp only [journal, List.mem_flatMap] at member
      obtain ⟨t, -, member⟩ := member
      rw [Trial.run, (records_of_leaves (run_leaves t.guards t.call t.context t.start)).1,
        List.mem_map] at member
      obtain ⟨d, -, rfl⟩ := member
      simp [isAuthenticationWarning, Denial.record, authenticationTarget]
    rw [List.filter_eq_self.2 all, journal, List.map_flatMap]
    congr 1
    funext t
    rw [Trial.run, (records_of_leaves (run_leaves t.guards t.call t.context t.start)).1]
    exact List.map_congr_left fun d _ => d.record_eq_warning
  tells _ _ same := Denial.warning_alike same
  consulted t _ := (records_of_leaves (run_leaves t.guards t.call t.context t.start)).2
  inquired t _ q member := by
    obtain ⟨stage, -, asks⟩ := mem_inquiries member
    exact ⟨stage, asks⟩
  denied t _ q member d := by
    obtain ⟨-, requestId, asks⟩ := mem_inquiries member
    simp only [Inquiry.denial?_eq_some_iff, Inquiry.failure?_eq_some_iff, Inquiry.denialOf,
      requestId, asks.method, Failure.toAudit]
    constructor
    · rintro ⟨f, ⟨verdict, s, wins⟩, rfl⟩
      exact ⟨f, s, verdict, wins, rfl⟩
    · rintro ⟨f, s, verdict, wins, rfl⟩
      exact ⟨f, ⟨verdict, s, wins⟩, rfl⟩
  told t _ := (run_leaves t.guards t.call t.context t.start).told
  others := by
    rintro refusal (⟨registry, policy, message, refused⟩ | ⟨call, refused⟩ | rfl | rfl) id <;>
      rw [isDenial_correlate_iff]
    · exact not_isDenial_check refused
    · exact not_isDenial_input refused
    · exact @not_isDenial_outcome Unit () .cancellation _ rfl
    · exact @not_isDenial_outcome Unit () .deadline _ rfl
  inProcess t _ k handler quiet := by
    refine records_andThen _ _ fun s admitted => ?_
    cases admitted with
    | error refusal => rfl
    | ok cx => simpa [Run.records, Run.after, Run.map, Event.record?] using quiet cx t.call s
  remote α guards fresh method request now handler quiet := by
    refine records_andThen _ _ fun s admitted => ?_
    cases admitted with
    | error refusal => rfl
    | ok cx => simpa [Run.records, Run.after, Event.record?] using quiet cx request s

end DeviceAdmission.Gate
