import DeviceAdmission.Gate.Run

/-!
# Who wins a race against a call's bounds

`race` picks the first of three events with nested comparisons. Here the order is said once, without
the comparisons: each event has an instant (`occurs`), and within one instant a rank. An event wins
when it occurs and everything else that occurs is later, or in the same instant and of a higher rank
(`Wins`).

* `race_eq_some_iff`: the race names exactly the event that wins, at its instant.
* `race_eq_none_iff`: there is no winner exactly when nothing ever occurs.
* `wins_at_once`: work that takes no time wins against every bound of a call that is not cancelled.
* `bounded_cancelled`, `bounded_of_wins`, `bounded_endless`: what bounded work ends with, by how the
  race goes. Work for a call that is cancelled already leaves no trace at all.
-/
namespace DeviceAdmission.Gate

open Call (Context Instant Duration)

/-! ## Runs -/

namespace Run

variable {α β : Type}

@[simp] theorem after_nil (r : Run α) : r.after [] = r := rfl

@[simp] theorem after_mk (seen events : List Event) (ending : Option (Instant × α)) :
    (Run.mk events ending).after seen = ⟨seen ++ events, ending⟩ := rfl

@[simp] theorem after_events (seen : List Event) (r : Run α) :
    (r.after seen).events = seen ++ r.events := rfl

/-- A run is its events and its end. -/
theorem eq_mk {r : Run α} {ending : Option (Instant × α)} (ends : r.ending = ending) :
    r = ⟨r.events, ending⟩ := by
  rw [← ends]

theorem after_after (first second : List Event) (r : Run α) :
    (r.after second).after first = r.after (first ++ second) := by
  simp [after, List.append_assoc]

@[simp] theorem andThen_ended (seen : List Event) (t : Instant) (value : α)
    (next : Instant → α → Run β) :
    (Run.mk seen (some (t, value))).andThen next = (next t value).after seen := rfl

@[simp] theorem andThen_endless (seen : List Event) (next : Instant → α → Run β) :
    (Run.mk seen none).andThen next = ⟨seen, none⟩ := rfl

end Run

/-! ## Instants -/

theorem le_tick (t : Nat) : t ≤ tick t := by
  unfold tick Duration.ofMillis Duration.millisUp
  omega

theorem le_fires (now deadline : Nat) : now ≤ fires now deadline := Nat.le_max_left _ _

theorem tick_mono {s t : Nat} (h : s ≤ t) : tick s ≤ tick t := by
  unfold tick Duration.ofMillis Duration.millisUp
  exact Nat.mul_le_mul_right _ (Nat.div_le_div_right (Nat.add_le_add_right h _))

/-- On a clock that stands at a whole millisecond an elapsed deadline fires at once. -/
theorem fires_elapsed {now deadline : Nat} (whole : tick now = now) (elapsed : deadline ≤ now) :
    fires now deadline = now := by
  have soon : tick deadline ≤ now := whole ▸ tick_mono elapsed
  exact Nat.max_eq_left soon

/-! ## The order of a race -/

/-- When an event of a race occurs, if it ever does. -/
def occurs (cx : Context) (now : Instant) (delay : Option Duration) : Winner → Option Instant
  | .cancellation => cx.cancelledAt
  | .work => delay.map (now + ·)
  | .deadline => cx.deadline.map (fires now)

/-- Which event counts first within one instant. -/
def Winner.rank : Winner → Nat
  | .cancellation => 0
  | .work => 1
  | .deadline => 2

/-- The event occurs, and before every other. -/
structure Wins (cx : Context) (now : Instant) (delay : Option Duration) (w : Winner)
    (t : Instant) : Prop where
  occurs : occurs cx now delay w = some t
  first : ∀ other s, Gate.occurs cx now delay other = some s →
    t < s ∨ t = s ∧ w.rank ≤ other.rank

theorem earlier_eq_some_iff (a b : Option (Instant × Winner)) (t : Instant) (w : Winner) :
    earlier a b = some (t, w) ↔
      (a = some (t, w) ∧ ∀ s x, b = some (s, x) → t ≤ s) ∨
      (b = some (t, w) ∧ ∀ s x, a = some (s, x) → t < s) := by
  rcases a with _ | ⟨s, x⟩ <;> rcases b with _ | ⟨u, y⟩
  · simp [earlier]
  · simp [earlier]
  · simp [earlier]
  · simp only [earlier]
    split <;> rename_i h <;> simp only [Option.some.injEq, Prod.mk.injEq] <;>
      constructor
    · rintro ⟨rfl, rfl⟩
      exact .inl ⟨⟨rfl, rfl⟩, fun _ _ e => e.1 ▸ h⟩
    · rintro (⟨e, -⟩ | ⟨⟨rfl, rfl⟩, later⟩)
      · exact e
      · exact absurd h (Nat.not_le_of_lt (later s x ⟨rfl, rfl⟩))
    · rintro ⟨rfl, rfl⟩
      exact .inr ⟨⟨rfl, rfl⟩, fun _ _ e => e.1 ▸ Nat.lt_of_not_le h⟩
    · rintro (⟨⟨rfl, rfl⟩, soonest⟩ | ⟨e, -⟩)
      · exact absurd (soonest u y ⟨rfl, rfl⟩) h
      · exact e

theorem earlier_eq_none_iff (a b : Option (Instant × Winner)) :
    earlier a b = none ↔ a = none ∧ b = none := by
  rcases a with _ | ⟨s, x⟩ <;> rcases b with _ | ⟨u, y⟩ <;> simp only [earlier]
  all_goals (try split) <;> simp

/-- A bound that both events keep is kept by the earlier one. -/
theorem le_earlier_iff (a b : Option (Instant × Winner)) (t : Instant) :
    (∀ s x, earlier a b = some (s, x) → t ≤ s) ↔
      (∀ s x, a = some (s, x) → t ≤ s) ∧ ∀ s x, b = some (s, x) → t ≤ s := by
  rcases a with _ | ⟨s, x⟩ <;> rcases b with _ | ⟨u, y⟩
  · simp [earlier]
  · simp [earlier]
  · simp [earlier]
  · simp only [earlier]
    split <;> rename_i h
    · constructor
      · intro bound
        have := bound s x rfl
        exact ⟨bound, fun _ _ e => by cases e; exact Nat.le_trans this h⟩
      · exact fun bounds => bounds.1
    · constructor
      · intro bound
        have := bound u y rfl
        exact ⟨fun _ _ e => by cases e; exact Nat.le_trans this (Nat.le_of_not_le h), bound⟩
      · exact fun bounds => bounds.2

/-- The event as it enters a comparison. -/
def entry (cx : Context) (now : Instant) (delay : Option Duration) (w : Winner) :
    Option (Instant × Winner) := (occurs cx now delay w).map (·, w)

@[simp] theorem entry_eq_some_iff (cx : Context) (now : Instant) (delay : Option Duration)
    (v w : Winner) (t : Instant) :
    entry cx now delay v = some (t, w) ↔ occurs cx now delay v = some t ∧ v = w := by
  cases h : occurs cx now delay v <;> simp [entry, h]

theorem race_eq (cx : Context) (now : Instant) (delay : Option Duration) :
    race cx now delay = earlier (entry cx now delay .cancellation)
      (earlier (entry cx now delay .work) (entry cx now delay .deadline)) := by
  simp [race, entry, occurs, Function.comp_def]

theorem race_eq_none_iff (cx : Context) (now : Instant) (delay : Option Duration) :
    race cx now delay = none ↔ ∀ w, occurs cx now delay w = none := by
  simp only [race_eq, earlier_eq_none_iff, entry, Option.map_eq_none_iff]
  constructor
  · rintro ⟨uncancelled, endless, unbounded⟩ (_ | _ | _)
    · exact endless
    · exact uncancelled
    · exact unbounded
  · exact fun never => ⟨never .cancellation, never .work, never .deadline⟩

theorem wins_of_race {cx : Context} {now : Instant} {delay : Option Duration} {t : Instant}
    {w : Winner} (h : race cx now delay = some (t, w)) : Wins cx now delay w t := by
  rw [race_eq, earlier_eq_some_iff, le_earlier_iff] at h
  simp only [earlier_eq_some_iff, entry_eq_some_iff] at h
  rcases h with ⟨⟨happens, rfl⟩, work, deadline⟩ |
    ⟨⟨⟨happens, rfl⟩, deadline⟩ | ⟨⟨happens, rfl⟩, work⟩, cancellation⟩
  -- Later events may share the instant, earlier ones may not.
  · refine ⟨happens, ?_⟩
    rintro (_ | _ | _) s hs
    · exact (Nat.lt_or_eq_of_le (work s _ ⟨hs, rfl⟩)).imp_right (⟨·, by decide⟩)
    · exact .inr ⟨Option.some.inj (happens.symm.trans hs), by decide⟩
    · exact (Nat.lt_or_eq_of_le (deadline s _ ⟨hs, rfl⟩)).imp_right (⟨·, by decide⟩)
  · refine ⟨happens, ?_⟩
    rintro (_ | _ | _) s hs
    · exact .inr ⟨Option.some.inj (happens.symm.trans hs), by decide⟩
    · exact .inl (cancellation s _ ⟨hs, rfl⟩)
    · exact (Nat.lt_or_eq_of_le (deadline s _ ⟨hs, rfl⟩)).imp_right (⟨·, by decide⟩)
  · refine ⟨happens, ?_⟩
    rintro (_ | _ | _) s hs
    · exact .inl (work s _ ⟨hs, rfl⟩)
    · exact .inl (cancellation s _ ⟨hs, rfl⟩)
    · exact .inr ⟨Option.some.inj (happens.symm.trans hs), by decide⟩

/-- At most one event wins. -/
theorem Wins.unique {cx : Context} {now : Instant} {delay : Option Duration} {s t : Instant}
    {v w : Winner} (one : Wins cx now delay v s) (other : Wins cx now delay w t) :
    s = t ∧ v = w := by
  have forth := one.first w t other.occurs
  have back := other.first v s one.occurs
  have same : s = t ∧ v.rank = w.rank := by grind
  refine ⟨same.1, ?_⟩
  have ranks := same.2
  cases v <;> cases w <;> first | rfl | cases ranks

/-- The race names exactly the event that occurs before every other. -/
theorem race_eq_some_iff (cx : Context) (now : Instant) (delay : Option Duration) (t : Instant)
    (w : Winner) : race cx now delay = some (t, w) ↔ Wins cx now delay w t := by
  refine ⟨wins_of_race, fun wins => ?_⟩
  cases h : race cx now delay with
  | none =>
    have never := (race_eq_none_iff cx now delay).1 h w
    rw [wins.occurs] at never
    cases never
  | some e =>
    obtain ⟨rfl, rfl⟩ := (wins_of_race h).unique wins
    rfl

theorem lt_of_live {cx : Context} {now c : Nat} (live : cx.isCancelled now = false)
    (cancelled : cx.cancelledAt = some c) : now < c := by
  simpa [Context.isCancelled, cancelled] using live

/-- Work that takes no time wins over every bound of a call that is not cancelled yet. -/
theorem wins_at_once {cx : Context} {now : Instant} (live : cx.isCancelled now = false) :
    Wins cx now (some 0) .work now := by
  refine ⟨rfl, ?_⟩
  rintro (_ | _ | _) s occurs
  · cases occurs
    exact .inr ⟨rfl, Nat.le_refl _⟩
  · exact .inl (lt_of_live live occurs)
  · obtain ⟨d, -, rfl⟩ := Option.map_eq_some_iff.1 occurs
    exact (Nat.lt_or_eq_of_le (le_fires now d)).imp_right (⟨·, by decide⟩)

/-! ## Bounded work -/

/-- What the winner of a race makes of work. -/
def Winner.outcome {α : Type} (value : α) : Winner → Except Refusal α
  | .work => .ok value
  | .cancellation => .error .cancelled
  | .deadline => .error .deadlineExceeded

section

variable {α : Type} {cx : Context} {now t : Instant} {w : Winner} (work : Work α)

/-- Work for a call that is cancelled already is not started. -/
theorem bounded_cancelled (h : cx.isCancelled now = true) :
    bounded cx now work = Run.done now (.error .cancelled) := if_pos h

theorem bounded_of_race (live : cx.isCancelled now = false) :
    bounded cx now work = ⟨work.opening,
      (race cx now work.delay).map fun e => (e.1, e.2.outcome work.value)⟩ := by
  rw [bounded, if_neg (by simp [live]), Run.after_mk, List.append_nil]
  rfl

theorem bounded_of_wins (live : cx.isCancelled now = false)
    (wins : Wins cx now work.delay w t) :
    bounded cx now work = ⟨work.opening, some (t, w.outcome work.value)⟩ := by
  rw [bounded_of_race work live, (race_eq_some_iff ..).2 wins]
  rfl

theorem bounded_endless (live : cx.isCancelled now = false)
    (never : ∀ w, occurs cx now work.delay w = none) :
    bounded cx now work = ⟨work.opening, none⟩ := by
  rw [bounded_of_race work live, (race_eq_none_iff ..).2 never]
  rfl

end

end DeviceAdmission.Gate
