import DeviceAdmission.Proofs.Gate.FrontEnds

/-!
# Chains in parts

`Chain.run` rebuilds the context on the way and rewrites the refusal at the end. Which stages it asks
for that, and what each of them is given, does not show in its result; `Chain.visits` lists it. That
this is what happens can be seen from any notes that the stages leave of what they are given
(`run_noting`).

* `run_append`, `visits_append`: a chain in two parts does what the parts do one after the other, the
  second with the context that the first one leaves.
* `exists_of_visits`: a stage is visited when those before it have passed the call on.
* `Passes.context_eq`: the context then is the first one, with the identity that was established
  last.
* `run_composes`: all of this about every chain, and that the first refusal is final.
-/
namespace DeviceAdmission.Gate

open Call (Context Instant)

/-! ## Visits -/

/-- A stage that is asked about a call: what it is given, and when. -/
structure Visit where
  stage : Stage
  context : Context
  start : Instant

namespace Visit

/-- What the stage does. -/
def run (v : Visit) (call : Call) : Run (Except Refusal Outcome) :=
  v.stage.handle v.context call v.start

/-- Who is calling, if the stage finds out. -/
def identity? (call : Call) (v : Visit) : Option Identity :=
  match (v.run call).ending with
  | some (_, .ok (.authenticated identity)) => some identity
  | _ => none

end Visit

/-- A stage that first leaves notes of what it is given. -/
def Stage.noting (note : Visit → List Event) (stage : Stage) : Stage where
  name := stage.name
  handle cx call now := (stage.handle cx call now).after (note ⟨stage, cx, now⟩)

/-- What the last stage found out that found out who is calling, or what was known before. -/
def established (call : Call) (visits : List Visit) (known : Option Identity) : Option Identity :=
  (visits.filterMap (Visit.identity? call)).getLast?.or known

theorem established_cons (call : Call) (v : Visit) (visits : List Visit)
    (known : Option Identity) : established call (v :: visits) known =
      established call visits ((v.identity? call).or known) := by
  unfold established
  cases found : v.identity? call with
  | none => simp [found]
  | some identity => cases h : (visits.filterMap (Visit.identity? call)).getLast? <;>
      simp [found, List.getLast?_cons, h]

namespace Chain

/-- The stages that a chain asks about a call, in order. -/
def visits : Chain → Context → Call → Instant → List Visit
  | [], _, _, _ => []
  | stage :: rest, cx, call, now =>
    ⟨stage, cx, now⟩ ::
      match (stage.handle cx call now).ending with
      | some (t, .ok outcome) => visits rest (outcome.enrich cx) call t
      | _ => []

variable {call : Call} {chain rest : Chain} {stage : Stage} {cx cx' : Context} {now t : Instant}
  {seen : List Event}

theorem visits_cons_ok {outcome : Outcome}
    (handled : stage.handle cx call now = ⟨seen, some (t, .ok outcome)⟩) :
    visits (stage :: rest) cx call now =
      ⟨stage, cx, now⟩ :: visits rest (outcome.enrich cx) call t := by
  simp [visits, handled]

theorem visits_cons_error {refusal : Refusal}
    (handled : stage.handle cx call now = ⟨seen, some (t, .error refusal)⟩) :
    visits (stage :: rest) cx call now = [⟨stage, cx, now⟩] := by
  simp [visits, handled]

theorem visits_cons_endless (handled : stage.handle cx call now = ⟨seen, none⟩) :
    visits (stage :: rest) cx call now = [⟨stage, cx, now⟩] := by
  simp [visits, handled]

/-- Whatever notes the stages leave of what they are given, those of the visits are left, in order,
and the chain decides as without them. -/
theorem run_noting (note : Visit → List Event) (chain : Chain) (cx : Context) (call : Call)
    (now : Instant) : run (chain.map (·.noting note)) cx call now =
      ⟨(visits chain cx call now).flatMap fun v => note v ++ (v.run call).events,
        (run chain cx call now).ending⟩ := by
  induction chain generalizing cx now with
  | nil => rfl
  | cons stage rest ih =>
    have noted : (stage.noting note).handle cx call now =
        (stage.handle cx call now).after (note ⟨stage, cx, now⟩) := rfl
    rcases handled : stage.handle cx call now with ⟨seen, _ | ⟨t, refusal | outcome⟩⟩
    all_goals rw [handled, Run.after_mk] at noted
    · rw [List.map_cons, run_cons_endless _ noted, run_cons_endless _ handled,
        visits_cons_endless handled]
      simp [Visit.run, handled]
    · rw [List.map_cons, run_cons_error _ noted, run_cons_error _ handled,
        visits_cons_error handled]
      simp [Visit.run, handled]
    · rw [List.map_cons, run_cons_ok _ noted, run_cons_ok _ handled, visits_cons_ok handled, ih]
      simp [Visit.run, handled, Run.after]

/-! ## A chain in two parts -/

theorem visits_append_of_passes (passed : Passes call chain cx now seen t cx') (rest : Chain) :
    visits (chain ++ rest) cx call now = visits chain cx call now ++ visits rest cx' call t := by
  induction passed with
  | nil => rfl
  | cons handled _ ih =>
    rw [List.cons_append, visits_cons_ok handled, visits_cons_ok handled, ih, List.cons_append]

theorem Fails.append {refusal : Refusal} (failed : Fails call chain cx now seen t refusal)
    (rest : Chain) : Fails call (chain ++ rest) cx now seen t refusal ∧
      visits (chain ++ rest) cx call now = visits chain cx call now := by
  cases failed with
  | intro passed refused =>
    rw [List.append_assoc, List.cons_append]
    refine ⟨.intro passed refused, ?_⟩
    rw [visits_append_of_passes passed, visits_append_of_passes passed, visits_cons_error refused,
      visits_cons_error refused]

theorem Stalls.append (stuck : Stalls call chain cx now seen) (rest : Chain) :
    Stalls call (chain ++ rest) cx now seen ∧
      visits (chain ++ rest) cx call now = visits chain cx call now := by
  cases stuck with
  | intro passed endless =>
    rw [List.append_assoc, List.cons_append]
    refine ⟨.intro passed endless, ?_⟩
    rw [visits_append_of_passes passed, visits_append_of_passes passed,
      visits_cons_endless endless, visits_cons_endless endless]

/-- What the second part makes of the outcome of the first. -/
def thenRun (rest : Chain) (call : Call) (t : Instant) :
    Except Refusal Context → Run (Except Refusal Context)
  | .error refusal => Run.done t (.error refusal)
  | .ok cx => run rest cx call t

theorem run_append (xs ys : Chain) (cx : Context) (call : Call) (now : Instant) :
    run (xs ++ ys) cx call now = (run xs cx call now).andThen (thenRun ys call) := by
  rcases passes_or_fails_or_stalls call xs cx now with
    ⟨seen, t, cx', passed⟩ | ⟨seen, t, refusal, failed⟩ | ⟨seen, stuck⟩
  · rw [run_append_of_passes passed, run_of_passes passed, Run.andThen_ended, thenRun]
  · rw [run_of_fails (failed.append ys).1, run_of_fails failed, Run.andThen_ended, thenRun,
      Run.done, Run.after_mk, List.append_nil]
  · rw [run_of_stalls (stuck.append ys).1, run_of_stalls stuck, Run.andThen_endless]

/-- The stages of the second part that are asked after the first. -/
def thenVisits (rest : Chain) (call : Call) :
    Option (Instant × Except Refusal Context) → List Visit
  | some (t, .ok cx) => visits rest cx call t
  | _ => []

theorem visits_append (xs ys : Chain) (cx : Context) (call : Call) (now : Instant) :
    visits (xs ++ ys) cx call now =
      visits xs cx call now ++ thenVisits ys call (run xs cx call now).ending := by
  rcases passes_or_fails_or_stalls call xs cx now with
    ⟨seen, t, cx', passed⟩ | ⟨seen, t, refusal, failed⟩ | ⟨seen, stuck⟩
  · rw [visits_append_of_passes passed, run_of_passes passed, thenVisits]
  · simp [(failed.append ys).2, run_of_fails failed, thenVisits]
  · simp [(stuck.append ys).2, run_of_stalls stuck, thenVisits]

/-! ## What the stages see -/

/-- The stages that passed a call on were all asked. -/
theorem Passes.stages_eq (passed : Passes call chain cx now seen t cx') :
    (visits chain cx call now).map (·.stage) = chain := by
  induction passed with
  | nil => rfl
  | cons handled _ ih => rw [visits_cons_ok handled, List.map_cons, ih]

/-- Of the context only the identity changes: it is the one that was established last. -/
theorem Passes.context_eq (passed : Passes call chain cx now seen t cx') :
    cx' = { cx with identity := established call (visits chain cx call now) cx.identity } := by
  induction passed with
  | nil => rfl
  | @cons _ _ _ _ _ _ _ _ _ outcome handled _ ih =>
    rw [visits_cons_ok handled, established_cons, ih]
    cases outcome <;> simp [Outcome.enrich, Context.withIdentity, Visit.identity?, Visit.run, handled]

/-- The stages that are asked stand at the front of the chain. -/
theorem stages_prefix (chain : Chain) (cx : Context) (call : Call) (now : Instant) :
    (visits chain cx call now).map (·.stage) <+: chain := by
  induction chain generalizing cx now with
  | nil => exact List.prefix_rfl
  | cons stage rest ih =>
    rcases handled : stage.handle cx call now with ⟨seen, _ | ⟨t, refusal | outcome⟩⟩
    · simp [visits_cons_endless handled]
    · simp [visits_cons_error handled]
    · simpa [visits_cons_ok handled] using ih (outcome.enrich cx) t

/-- A stage that is asked is asked once those before it have passed the call on; they are the stages
that were asked before, and the chain goes on from there. -/
theorem exists_of_visits {before after : List Visit} {v : Visit}
    (asked : visits chain cx call now = before ++ v :: after) :
    ∃ front rest seen, chain = front ++ v.stage :: rest ∧
      Passes call front cx now seen v.start v.context ∧ visits front cx call now = before ∧
      visits (v.stage :: rest) v.context call v.start = v :: after := by
  induction before generalizing chain cx now with
  | nil =>
    cases chain with
    | nil => cases asked
    | cons stage rest =>
      have first : v = ⟨stage, cx, now⟩ := (List.cons.inj asked).1.symm
      subst first
      exact ⟨[], rest, [], rfl, .nil cx now, rfl, asked⟩
  | cons u before ih =>
    cases chain with
    | nil => cases asked
    | cons stage rest =>
      rcases handled : stage.handle cx call now with ⟨seen, _ | ⟨t, refusal | outcome⟩⟩
      · simp [visits_cons_endless handled] at asked
      · simp [visits_cons_error handled] at asked
      · rw [visits_cons_ok handled, List.cons_append, List.cons.injEq] at asked
        obtain ⟨rfl, later⟩ := asked
        obtain ⟨front, tail, events, rfl, passed, asked, goes⟩ := ih later
        refine ⟨stage :: front, tail, _, rfl, .cons handled passed, ?_, goes⟩
        rw [visits_cons_ok handled, asked]

/-- Who is asked after a stage was passed by it. -/
theorem ok_of_visits {before after : List Visit} {v : Visit}
    (asked : visits chain cx call now = before ++ v :: after) (more : after ≠ []) :
    ∃ t outcome, (v.run call).ending = some (t, .ok outcome) := by
  obtain ⟨front, rest, seen, -, -, -, goes⟩ := exists_of_visits asked
  rcases handled : v.stage.handle v.context call v.start with ⟨events, _ | ⟨t, refusal | outcome⟩⟩
  · rw [visits_cons_endless handled] at goes
    exact absurd (List.cons.inj goes).2.symm more
  · rw [visits_cons_error handled] at goes
    exact absurd (List.cons.inj goes).2.symm more
  · exact ⟨t, outcome, congrArg Run.ending handled⟩

end Chain

/-! ## What a chain does -/

/-- How a chain deals with a call. -/
structure Composes (call : Call) : Prop where
  /-- A chain in two parts decides as the second part does with the context of the first. -/
  append : ∀ xs ys cx now,
    Chain.run (xs ++ ys) cx call now = (Chain.run xs cx call now).andThen (Chain.thenRun ys call)
  /-- The stages of the second part are asked after those of the first, if that admits the call. -/
  asked : ∀ xs ys cx now, Chain.visits (xs ++ ys) cx call now =
    Chain.visits xs cx call now ++ Chain.thenVisits ys call (Chain.run xs cx call now).ending
  /-- These are the stages that are asked, and what they are given. -/
  noted : ∀ (note : Visit → List Event) chain cx now,
    Chain.run (chain.map (·.noting note)) cx call now =
      ⟨(Chain.visits chain cx call now).flatMap fun v => note v ++ (v.run call).events,
        (Chain.run chain cx call now).ending⟩
  /-- They are asked in the order of the chain, from the first on. -/
  ordered : ∀ chain cx now, (Chain.visits chain cx call now).map (·.stage) <+: chain
  /-- Only a stage that passes the call on is followed by another. -/
  halts : ∀ chain cx now before v after,
    Chain.visits chain cx call now = before ++ v :: after → after ≠ [] →
    ∃ t outcome, (v.run call).ending = some (t, .ok outcome)
  /-- A stage sees the first context, with the identity that an earlier one established last. -/
  seen : ∀ chain cx now before v after,
    Chain.visits chain cx call now = before ++ v :: after →
    v.context = { cx with identity := established call before cx.identity }
  /-- So does the handler, behind all stages. -/
  admitted : ∀ chain cx now t cx', (Chain.run chain cx call now).ending = some (t, .ok cx') →
    (Chain.visits chain cx call now).map (·.stage) = chain ∧
    cx' = { cx with identity := established call (Chain.visits chain cx call now) cx.identity }
  /-- A stage that refuses is the last one, and its refusal stands, with the request id for a
  correlation id if it has none. -/
  refuses : ∀ chain cx now before v after t refusal,
    Chain.visits chain cx call now = before ++ v :: after →
    (v.run call).ending = some (t, .error refusal) →
    after = [] ∧ (Chain.run chain cx call now).ending = some (t, .error { refusal with
      failure := { refusal.failure with
        correlationId := some (refusal.failure.correlationId.getD cx.requestId) } })
  /-- And nobody but a stage refuses. -/
  refused : ∀ chain cx now t told, (Chain.run chain cx call now).ending = some (t, .error told) →
    ∃ before v refusal, Chain.visits chain cx call now = before ++ [v] ∧
      (v.run call).ending = some (t, .error refusal)

theorem run_composes (call : Call) : Composes call where
  append xs ys cx now := Chain.run_append xs ys cx call now
  asked xs ys cx now := Chain.visits_append xs ys cx call now
  noted note chain cx now := Chain.run_noting note chain cx call now
  ordered chain cx now := Chain.stages_prefix chain cx call now
  halts _ _ _ _ _ _ asked more := Chain.ok_of_visits asked more
  seen _ _ _ _ _ _ asked := by
    obtain ⟨front, rest, seen, -, passed, rfl, -⟩ := Chain.exists_of_visits asked
    exact passed.context_eq
  admitted chain cx now t cx' ends := by
    have passed := Chain.run_ok_iff.1 (Run.eq_mk ends)
    exact ⟨passed.stages_eq, passed.context_eq⟩
  refuses chain cx now before v after t refusal asked refuses := by
    obtain ⟨front, rest, seen, rfl, passed, -, goes⟩ := Chain.exists_of_visits asked
    have handled : v.stage.handle v.context call v.start =
        ⟨(v.run call).events, some (t, .error refusal)⟩ := Run.eq_mk refuses
    constructor
    · rw [Chain.visits_cons_error handled] at goes
      exact (List.cons.inj goes).2.symm
    · rw [Chain.run_of_fails (.intro passed handled), Refusal.correlate_eq]
  refused chain cx now t told ends := by
    obtain ⟨refusal, failed, -⟩ := Chain.run_error_iff.1 (Run.eq_mk ends)
    generalize (Chain.run chain cx call now).events = seen at failed
    obtain @⟨front, rest, stage, _, cx', _, mid, _, _, _, _, passed, refused⟩ := failed
    refine ⟨Chain.visits front cx call now, ⟨stage, cx', mid⟩, refusal, ?_,
      congrArg Run.ending refused⟩
    rw [Chain.visits_append_of_passes passed, Chain.visits_cons_error refused]

end DeviceAdmission.Gate
