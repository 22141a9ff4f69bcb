import DeviceAdmission.Gate.Chain
import DeviceAdmission.Proofs.Gate.Race

/-!
# How a call passes a chain

`Chain.run` threads a context, an instant and a list of events through the stages. This module says
what became of a call without that recursion: every stage passed it (`Passes`), one stage refused it
after those before it had passed it (`Fails`), or one stage never came to an end (`Stalls`).

* `run_of_passes`, `run_of_fails`, `run_of_stalls`: what the chain's run is in each of the three
  cases; a refusal is the failing stage's own, with the request id if it had no correlation id.
* `passes_or_fails_or_stalls`: one of the three happens to every call.
* `run_ok_iff`, `run_error_iff`, `run_endless_iff`: so each way in which a run can end tells what
  became of the call.
* `run_append_of_passes`: stages that passed a call leave the rest of the chain to decide.
-/
namespace DeviceAdmission.Gate

open Call (Context Instant)

/-- The context that the next stage sees. -/
def Outcome.enrich (cx : Context) : Outcome → Context
  | .proceed => cx
  | .authenticated identity => cx.withIdentity identity

namespace Chain

/-- Every stage of the chain passes the call on. -/
inductive Passes (call : Call) :
    Chain → Context → Instant → List Event → Instant → Context → Prop where
  | nil (cx : Context) (now : Instant) : Passes call [] cx now [] now cx
  | cons {stage : Stage} {rest : Chain} {cx cx' : Context} {now t t' : Instant}
      {seen later : List Event} {outcome : Outcome}
      (handled : stage.handle cx call now = ⟨seen, some (t, .ok outcome)⟩)
      (passed : Passes call rest (outcome.enrich cx) t later t' cx') :
      Passes call (stage :: rest) cx now (seen ++ later) t' cx'

/-- A stage refuses the call once the stages before it have passed it on. -/
inductive Fails (call : Call) :
    Chain → Context → Instant → List Event → Instant → Refusal → Prop where
  | intro {before rest : Chain} {stage : Stage} {cx cx' : Context} {now t t' : Instant}
      {seen last : List Event} {refusal : Refusal}
      (passed : Passes call before cx now seen t cx')
      (refused : stage.handle cx' call t = ⟨last, some (t', .error refusal)⟩) :
      Fails call (before ++ stage :: rest) cx now (seen ++ last) t' refusal

/-- A stage never ends once the stages before it have passed the call on. -/
inductive Stalls (call : Call) : Chain → Context → Instant → List Event → Prop where
  | intro {before rest : Chain} {stage : Stage} {cx cx' : Context} {now t : Instant}
      {seen last : List Event}
      (passed : Passes call before cx now seen t cx')
      (endless : stage.handle cx' call t = ⟨last, none⟩) :
      Stalls call (before ++ stage :: rest) cx now (seen ++ last)

variable {call : Call} {chain : Chain} {cx cx' : Context} {now t : Instant} {seen : List Event}

/-! ## One stage -/

theorem run_cons_ok {stage : Stage} {outcome : Outcome} (rest : Chain)
    (handled : stage.handle cx call now = ⟨seen, some (t, .ok outcome)⟩) :
    run (stage :: rest) cx call now = (run rest (outcome.enrich cx) call t).after seen := by
  cases outcome <;> simp [run, handled, Outcome.enrich]

theorem run_cons_error {stage : Stage} {refusal : Refusal} (rest : Chain)
    (handled : stage.handle cx call now = ⟨seen, some (t, .error refusal)⟩) :
    run (stage :: rest) cx call now =
      ⟨seen, some (t, .error (refusal.correlate cx.requestId))⟩ := by
  simp [run, handled, Run.done]

theorem run_cons_endless {stage : Stage} (rest : Chain)
    (handled : stage.handle cx call now = ⟨seen, none⟩) :
    run (stage :: rest) cx call now = ⟨seen, none⟩ := by
  simp [run, handled]

/-! ## A whole chain -/

/-- Only the identity in a context ever changes. -/
theorem Passes.requestId (h : Passes call chain cx now seen t cx') :
    cx'.requestId = cx.requestId := by
  induction h with
  | nil => rfl
  | @cons _ _ _ _ _ _ _ _ _ outcome _ _ ih =>
    rw [ih]
    cases outcome <;> rfl

theorem run_append_of_passes (h : Passes call chain cx now seen t cx') (rest : Chain) :
    run (chain ++ rest) cx call now = (run rest cx' call t).after seen := by
  induction h with
  | nil => rfl
  | cons handled _ ih =>
    rw [List.cons_append, run_cons_ok _ handled, ih, Run.after_after]

theorem run_of_passes (h : Passes call chain cx now seen t cx') :
    run chain cx call now = ⟨seen, some (t, .ok cx')⟩ := by
  have whole := run_append_of_passes h []
  rw [List.append_nil] at whole
  simpa [run, Run.done] using whole

theorem run_of_fails {refusal : Refusal} (h : Fails call chain cx now seen t refusal) :
    run chain cx call now = ⟨seen, some (t, .error (refusal.correlate cx.requestId))⟩ := by
  cases h with
  | intro passed refused =>
    rw [run_append_of_passes passed, run_cons_error _ refused, passed.requestId, Run.after_mk]

theorem run_of_stalls (h : Stalls call chain cx now seen) :
    run chain cx call now = ⟨seen, none⟩ := by
  cases h with
  | intro passed endless =>
    rw [run_append_of_passes passed, run_cons_endless _ endless, Run.after_mk]

/-- One of the three happens to every call. -/
theorem passes_or_fails_or_stalls (call : Call) (chain : Chain) (cx : Context) (now : Instant) :
    (∃ seen t cx', Passes call chain cx now seen t cx') ∨
      (∃ seen t refusal, Fails call chain cx now seen t refusal) ∨
      ∃ seen, Stalls call chain cx now seen := by
  induction chain generalizing cx now with
  | nil => exact .inl ⟨[], now, cx, .nil cx now⟩
  | cons stage rest ih =>
    rcases handled : stage.handle cx call now with ⟨seen, _ | ⟨t, refusal | outcome⟩⟩
    · exact .inr (.inr ⟨[] ++ seen, .intro (.nil cx now) handled⟩)
    · exact .inr (.inl ⟨[] ++ seen, t, refusal, .intro (.nil cx now) handled⟩)
    · rcases ih (outcome.enrich cx) t with
        ⟨later, t', cx', passed⟩ | ⟨later, t', refusal, failed⟩ | ⟨later, stalled⟩
      · exact .inl ⟨seen ++ later, t', cx', .cons handled passed⟩
      · cases failed with
        | intro passed refused =>
          exact .inr (.inl ⟨_, t', refusal, .intro (.cons handled passed) refused⟩)
      · cases stalled with
        | intro passed endless =>
          exact .inr (.inr ⟨_, .intro (.cons handled passed) endless⟩)

/-! ## What a run tells -/

theorem run_ok_iff : run chain cx call now = ⟨seen, some (t, .ok cx')⟩ ↔
    Passes call chain cx now seen t cx' := by
  refine ⟨fun ran => ?_, run_of_passes⟩
  rcases passes_or_fails_or_stalls call chain cx now with
    ⟨_, _, _, passed⟩ | ⟨_, _, _, failed⟩ | ⟨_, stalled⟩
  · rw [run_of_passes passed] at ran
    cases ran
    exact passed
  · rw [run_of_fails failed] at ran
    cases ran
  · rw [run_of_stalls stalled] at ran
    cases ran

theorem run_error_iff {told : Refusal} : run chain cx call now = ⟨seen, some (t, .error told)⟩ ↔
    ∃ refusal, Fails call chain cx now seen t refusal ∧ told = refusal.correlate cx.requestId := by
  constructor
  · intro ran
    rcases passes_or_fails_or_stalls call chain cx now with
      ⟨_, _, _, passed⟩ | ⟨_, _, refusal, failed⟩ | ⟨_, stalled⟩
    · rw [run_of_passes passed] at ran
      cases ran
    · rw [run_of_fails failed] at ran
      cases ran
      exact ⟨refusal, failed, rfl⟩
    · rw [run_of_stalls stalled] at ran
      cases ran
  · rintro ⟨refusal, failed, rfl⟩
    exact run_of_fails failed

theorem run_endless_iff : run chain cx call now = ⟨seen, none⟩ ↔
    Stalls call chain cx now seen := by
  refine ⟨fun ran => ?_, run_of_stalls⟩
  rcases passes_or_fails_or_stalls call chain cx now with
    ⟨_, _, _, passed⟩ | ⟨_, _, _, failed⟩ | ⟨_, stalled⟩
  · rw [run_of_passes passed] at ran
    cases ran
  · rw [run_of_fails failed] at ran
    cases ran
  · rw [run_of_stalls stalled] at ran
    cases ran
    exact stalled

end Chain

end DeviceAdmission.Gate
