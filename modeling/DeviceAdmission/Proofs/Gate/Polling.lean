import Mathlib.Order.Bounds.Basic
import DeviceAdmission.Proofs.Gate.Race

/-!
# How bounded work is polled

`bounded` names the winner of a race outright. A task gets there by polls: whenever it is woken it
looks at the cancellation first, then at the work, and at the timer of the deadline last, and it is
dropped with its work as soon as one of them has come about. `course` runs the task so, through any
list of wake-ups that misses none of the three events (`WakeUps`); wake-ups for nothing are allowed.

* `course_of_wins`, `course_of_endless`: what a task comes to, and which wake-ups poll the work, by
  how the race goes.
* `wins_cancellation`, `wins_work`, `wins_deadline`: the three rules of the race, for a cancellation
  that shares its instant with no other event.
* `bounded_resolves`: bounded work ends by these rules and as its task does. Work for a call that is
  cancelled already is never polled, and work that lost the race never again.
-/
namespace DeviceAdmission.Gate

open Call (Context Instant Duration)

/-! ## Polls -/

/-- An event has happened by an instant. -/
def happened (event : Option Instant) (t : Instant) : Bool := event.any (· ≤ t)

/-- What a poll finds: the value if there is one, and whether the work was polled for it. -/
structure Poll (α : Type) where
  worked : Bool
  value : Option α

/-- What is found at each instant. -/
abbrev Pollable (α : Type) := Instant → Poll α

namespace Pollable

variable {α : Type}

/-- Work that is ready from an instant on. -/
def work (ready : Option Instant) (value : α) : Pollable α := fun t =>
  ⟨true, if happened ready t then some value else none⟩

/-- Polls something, and looks at a timer only if it is not ready. -/
def timeout (timer : Option Instant) (inner : Pollable α) : Pollable (Except Refusal α) := fun t =>
  let poll := inner t
  ⟨poll.worked, match poll.value with
    | some value => some (.ok value)
    | none => if happened timer t then some (.error .deadlineExceeded) else none⟩

/-- Looks for a cancellation, and polls something only if there is none. -/
def unlessCancelled (cancellation : Option Instant) (inner : Pollable (Except Refusal α)) :
    Pollable (Except Refusal α) := fun t =>
  if happened cancellation t then ⟨false, some (.error .cancelled)⟩ else inner t

/-- Work in the bounds of a cancellation and a deadline. -/
def task (events : Winner → Option Instant) (value : α) : Pollable (Except Refusal α) :=
  unlessCancelled (events .cancellation) (timeout (events .deadline) (work (events .work) value))

/-- What becomes of a task: when its work was polled, and its end. -/
structure Course (α : Type) where
  polls : List Instant
  ending : Option (Instant × α)

/-- Polls at each wake-up until there is a value. Later wake-ups find nothing left to poll. -/
def drive (f : Pollable α) : List Instant → Course α
  | [] => ⟨[], none⟩
  | t :: later =>
    let poll := f t
    let polls := if poll.worked then [t] else []
    match poll.value with
    | some value => ⟨polls, some (t, value)⟩
    | none => ⟨polls ++ (f.drive later).polls, (f.drive later).ending⟩

variable {f : Pollable α} {t : Instant}

theorem drive_pending {waits : List Instant} (pending : ∀ p ∈ waits, f p = ⟨true, none⟩)
    (later : List Instant) :
    f.drive (waits ++ later) = ⟨waits ++ (f.drive later).polls, (f.drive later).ending⟩ := by
  induction waits with
  | nil => rfl
  | cons p waits ih =>
    have here : f p = ⟨true, none⟩ := pending p (by simp)
    have rest := ih fun q member => pending q (by simp [member])
    simp [drive, here, rest]

theorem drive_ready {worked : Bool} {value : α} (found : f t = ⟨worked, some value⟩)
    (later : List Instant) :
    f.drive (t :: later) = ⟨if worked then [t] else [], some (t, value)⟩ := by
  simp [drive, found]

end Pollable

/-! ## The instants of a race -/

/-- The timer of a deadline fires on the first whole millisecond that is not too early. -/
theorem tick_isLeast (t : Nat) : IsLeast {u : Nat | 1_000_000 ∣ u ∧ t ≤ u} (tick t) := by
  constructor
  · exact ⟨Nat.dvd_mul_left _ _, le_tick t⟩
  · rintro u ⟨⟨k, rfl⟩, bound⟩
    unfold tick Duration.ofMillis Duration.millisUp
    omega

section

variable {cx : Context} {now t c : Instant} {delay : Option Duration} {w : Winner}

/-- A call is cancelled already exactly if its cancellation does not lie ahead. -/
theorem isCancelled_iff (cancels : cx.cancelledAt = some c) :
    cx.isCancelled now = true ↔ c ≤ now := by
  simp [Context.isCancelled, cancels]

/-- Of a call that is not cancelled yet all events lie ahead, however late it is. -/
theorem le_of_occurs (live : cx.isCancelled now = false) (happens : occurs cx now delay w = some t) :
    now ≤ t := by
  cases w with
  | work =>
    obtain ⟨d, -, rfl⟩ := Option.map_eq_some_iff.1 happens
    exact Nat.le_add_right now d
  | cancellation => exact Nat.le_of_lt (lt_of_live live happens)
  | deadline =>
    obtain ⟨d, -, rfl⟩ := Option.map_eq_some_iff.1 happens
    exact le_fires now d

/-! ## The course of a task -/

/-- A list of wake-ups: the first poll, and then whenever an event happens, or for nothing. -/
structure WakeUps (cx : Context) (now : Instant) (delay : Option Duration)
    (wakes : List Instant) : Prop where
  start : wakes.head? = some now
  ascending : wakes.Pairwise (· ≤ ·)
  woken : ∀ w t, occurs cx now delay w = some t → now ≤ t → t ∈ wakes

/-- Every task can be woken so. -/
theorem exists_wakeUps (cx : Context) (now : Instant) (delay : Option Duration) :
    ∃ wakes, WakeUps cx now delay wakes := by
  let events := [Winner.cancellation, .work, .deadline].filterMap (occurs cx now delay)
  let ahead := (events.filter (now ≤ ·)).mergeSort
  have member : ∀ t, t ∈ ahead ↔ t ∈ events ∧ now ≤ t := by simp [ahead]
  have sorted : ahead.Pairwise (· ≤ ·) := by
    simpa using @List.pairwise_mergeSort Nat (fun s t => decide (s ≤ t))
      (fun _ _ _ => by simpa using Nat.le_trans) (fun s t => by simpa using Nat.le_total s t)
      (events.filter (now ≤ ·))
  refine ⟨now :: ahead, rfl, ?_, fun w t happens late => ?_⟩
  · exact List.pairwise_cons.2 ⟨fun t later => ((member t).1 later).2, sorted⟩
  · refine List.mem_cons_of_mem now ((member t).2 ⟨List.mem_filterMap.2 ⟨w, ?_, happens⟩, late⟩)
    cases w <;> decide

/-- The course of bounded work through a list of wake-ups. -/
def course {α : Type} (cx : Context) (now : Instant) (work : Work α) (wakes : List Instant) :
    Pollable.Course (Except Refusal α) :=
  (Pollable.task (occurs cx now work.delay) work.value).drive wakes

theorem happened_of_occurs (happens : occurs cx now delay w = some t) :
    happened (occurs cx now delay w) t = true := by
  simp [happened, happens]

/-- Before an event wins, nothing has happened. -/
theorem Wins.not_happened {p : Instant} (wins : Wins cx now delay w t) (sooner : p < t)
    (other : Winner) : happened (Gate.occurs cx now delay other) p = false := by
  cases happens : Gate.occurs cx now delay other with
  | none => rfl
  | some s =>
    have bound : t ≤ s := (wins.first other s happens).elim Nat.le_of_lt fun tie => tie.1.le
    simpa [happened] using Nat.lt_of_lt_of_le sooner bound

/-- When an event wins, nothing of a lower rank has happened. -/
theorem Wins.not_happened_of_rank (wins : Wins cx now delay w t) (other : Winner)
    (lower : other.rank < w.rank) : happened (Gate.occurs cx now delay other) t = false := by
  cases happens : Gate.occurs cx now delay other with
  | none => rfl
  | some s =>
    have later : t < s := (wins.first other s happens).resolve_right fun tie =>
      absurd tie.2 (Nat.not_le.2 lower)
    simpa [happened] using later

variable {α : Type} (work : Work α)

/-- A poll before anything has happened finds the work unfinished. -/
theorem task_pending {value : α} {p : Instant} (wins : Wins cx now delay w t) (sooner : p < t) :
    Pollable.task (Gate.occurs cx now delay) value p = ⟨true, none⟩ := by
  simp [Pollable.task, Pollable.unlessCancelled, Pollable.timeout, Pollable.work,
    wins.not_happened sooner]

/-- A poll when an event wins finds what the event makes of the work; only for a cancellation the
work is not polled. -/
theorem task_of_wins {value : α} (wins : Wins cx now delay w t) :
    Pollable.task (Gate.occurs cx now delay) value t =
      ⟨w != .cancellation, some (w.outcome value)⟩ := by
  have own := happened_of_occurs wins.occurs
  cases w with
  | cancellation => simp [Pollable.task, Pollable.unlessCancelled, own, Winner.outcome]
  | work =>
    have live := wins.not_happened_of_rank .cancellation (by decide)
    simp [Pollable.task, Pollable.unlessCancelled, Pollable.timeout, Pollable.work, own, live,
      Winner.outcome]
  | deadline =>
    have live := wins.not_happened_of_rank .cancellation (by decide)
    have busy := wins.not_happened_of_rank .work (by decide)
    simp [Pollable.task, Pollable.unlessCancelled, Pollable.timeout, Pollable.work, own, live,
      busy, Winner.outcome]

/-- Wake-ups that reach an event are those before it and those from it on. -/
theorem WakeUps.split {wakes : List Instant} (woken : WakeUps cx now delay wakes)
    (happens : occurs cx now delay w = some t) (ahead : now ≤ t) :
    ∃ before after, wakes = before ++ t :: after ∧ ∀ p ∈ before, p < t := by
  obtain ⟨before, after, rfl, fresh⟩ := List.eq_append_cons_of_mem (woken.woken w t happens ahead)
  refine ⟨before, after, rfl, fun p member => ?_⟩
  have ordered := (List.pairwise_append.1 woken.ascending).2.2 p member t (by simp)
  exact Nat.lt_of_le_of_ne ordered fun same => fresh (same ▸ member)

/-- A task whose call is cancelled already ends with its first poll, before the work. -/
theorem course_of_cancelled {wakes : List Instant} (woken : WakeUps cx now work.delay wakes)
    (cancelled : cx.isCancelled now = true) :
    course cx now work wakes = ⟨[], some (now, .error .cancelled)⟩ := by
  obtain ⟨rest, rfl⟩ := List.head?_eq_some_iff.1 woken.start
  have found : Pollable.task (occurs cx now work.delay) work.value now =
      ⟨false, some (.error .cancelled)⟩ := if_pos cancelled
  rw [course, Pollable.drive_ready found]
  rfl

/-- A task ends with the event that wins. Its work is polled at every wake-up until then, and at the
end unless that is the cancellation. -/
theorem course_of_wins {wakes : List Instant} (woken : WakeUps cx now work.delay wakes)
    (live : cx.isCancelled now = false) (wins : Wins cx now work.delay w t) :
    ∃ before, (∀ p ∈ before, p < t) ∧ course cx now work wakes =
      ⟨before ++ if w != .cancellation then [t] else [], some (t, w.outcome work.value)⟩ := by
  obtain ⟨before, after, rfl, sooner⟩ := woken.split wins.occurs (le_of_occurs live wins.occurs)
  refine ⟨before, sooner, ?_⟩
  have pending : ∀ p ∈ before,
      Pollable.task (occurs cx now work.delay) work.value p = ⟨true, none⟩ :=
    fun p member => task_pending wins (sooner p member)
  rw [course, Pollable.drive_pending pending, Pollable.drive_ready (task_of_wins wins)]

/-- A task without an event is polled for ever. -/
theorem course_of_endless (wakes : List Instant)
    (never : ∀ w, occurs cx now work.delay w = none) :
    course cx now work wakes = ⟨wakes, none⟩ := by
  have pending : ∀ p ∈ wakes,
      Pollable.task (occurs cx now work.delay) work.value p = ⟨true, none⟩ := by
    intro p _
    simp [Pollable.task, Pollable.unlessCancelled, Pollable.timeout, Pollable.work, happened, never]
  have whole := Pollable.drive_pending pending []
  rw [List.append_nil] at whole
  rw [course, whole]
  simp [Pollable.drive]

/-- The work of a live call is polled at once, whatever comes of it. -/
theorem polls_ne_nil {wakes : List Instant} (woken : WakeUps cx now work.delay wakes)
    (live : cx.isCancelled now = false) : (course cx now work wakes).polls ≠ [] := by
  obtain ⟨rest, rfl⟩ := List.head?_eq_some_iff.1 woken.start
  have first : happened (occurs cx now work.delay .cancellation) now = false := live
  have worked : (Pollable.task (occurs cx now work.delay) work.value now).worked = true := by
    simp [Pollable.task, Pollable.unlessCancelled, Pollable.timeout, Pollable.work, first]
  unfold course Pollable.drive
  simp only [worked]
  split <;> simp

/-! ## The rules of the race -/

/-- An instant comes before an event, if the event ever happens. -/
def Before (t : Instant) (event : Option Instant) : Prop := ∀ s, event = some s → t < s

/-- The cancellation decides the race: it has come already, or it comes before anything else. -/
structure Preempts (cx : Context) (now : Instant) (delay : Option Duration) (c : Instant) :
    Prop where
  cancels : cx.cancelledAt = some c
  first : c ≤ now ∨
    Before c (occurs cx now delay .work) ∧ Before c (occurs cx now delay .deadline)

/-- A cancellation to come shares its instant with no other event. -/
def Untied (cx : Context) (now : Instant) (delay : Option Duration) : Prop :=
  ∀ c, cx.cancelledAt = some c → now < c →
    occurs cx now delay .work ≠ some c ∧ occurs cx now delay .deadline ≠ some c

/-- A cancellation that comes first wins, unless it has come already. -/
theorem wins_cancellation (preempts : Preempts cx now delay c) (ahead : now < c) :
    cx.isCancelled now = false ∧ Wins cx now delay .cancellation c := by
  have live : cx.isCancelled now = false := by
    rw [Bool.eq_false_iff, ne_eq, isCancelled_iff preempts.cancels]
    exact Nat.not_le.2 ahead
  obtain ⟨work, deadline⟩ := preempts.first.resolve_left (Nat.not_le.2 ahead)
  refine ⟨live, preempts.cancels, ?_⟩
  rintro (_ | _ | _) s other
  · exact .inl (work s other)
  · exact .inr ⟨Option.some.inj (preempts.cancels.symm.trans other), Nat.le_refl _⟩
  · exact .inl (deadline s other)

theorem live_of_unpreempted (free : ∀ c, ¬ Preempts cx now delay c) :
    cx.isCancelled now = false := by
  cases cancels : cx.cancelledAt with
  | none => simp [Context.isCancelled, cancels]
  | some c =>
    rw [Bool.eq_false_iff, ne_eq, isCancelled_iff cancels]
    exact fun past => free c ⟨cancels, .inl past⟩

/-- Where the cancellation does not decide, it comes after the first of the two other events. -/
theorem before_cancellation (untied : Untied cx now delay) (free : ∀ c, ¬ Preempts cx now delay c)
    (bounding : w ≠ .cancellation) (happens : occurs cx now delay w = some t)
    (work : ∀ s, occurs cx now delay .work = some s → t ≤ s)
    (deadline : ∀ s, occurs cx now delay .deadline = some s → t ≤ s) :
    Before t (occurs cx now delay .cancellation) := by
  intro c cancels
  have ahead : now < c := lt_of_live (live_of_unpreempted free) cancels
  have apart : c ≠ t := by
    rintro rfl
    have lone := untied c cancels ahead
    cases w with
    | work => exact lone.1 happens
    | deadline => exact lone.2 happens
    | cancellation => exact bounding rfl
  by_contra late
  have sooner : c < t := Nat.lt_of_le_of_ne (Nat.not_lt.1 late) apart
  exact free c ⟨cancels, .inr ⟨fun s happens => Nat.lt_of_lt_of_le sooner (work s happens),
    fun s happens => Nat.lt_of_lt_of_le sooner (deadline s happens)⟩⟩

/-- Otherwise work wins that is ready by the time the deadline fires. -/
theorem wins_work (untied : Untied cx now delay) (free : ∀ c, ¬ Preempts cx now delay c)
    (happens : occurs cx now delay .work = some t)
    (timely : ∀ s, occurs cx now delay .deadline = some s → t ≤ s) :
    Wins cx now delay .work t := by
  have own : ∀ s, occurs cx now delay .work = some s → t = s := fun s same =>
    Option.some.inj (happens.symm.trans same)
  have cancellation := before_cancellation untied free (by decide) happens
    (fun s same => Nat.le_of_eq (own s same)) timely
  refine ⟨happens, ?_⟩
  rintro (_ | _ | _) s other
  · exact .inr ⟨own s other, Nat.le_refl _⟩
  · exact .inl (cancellation s other)
  · exact (Nat.lt_or_eq_of_le (timely s other)).imp_right (⟨·, by decide⟩)

/-- Otherwise the deadline wins. -/
theorem wins_deadline (untied : Untied cx now delay) (free : ∀ c, ¬ Preempts cx now delay c)
    (happens : occurs cx now delay .deadline = some t)
    (busy : Before t (occurs cx now delay .work)) : Wins cx now delay .deadline t := by
  have own : ∀ s, occurs cx now delay .deadline = some s → t = s := fun s same =>
    Option.some.inj (happens.symm.trans same)
  have cancellation := before_cancellation untied free (by decide) happens
    (fun s other => Nat.le_of_lt (busy s other)) (fun s same => Nat.le_of_eq (own s same))
  refine ⟨happens, ?_⟩
  rintro (_ | _ | _) s other
  · exact .inl (busy s other)
  · exact .inl (cancellation s other)
  · exact .inr ⟨own s other, Nat.le_refl _⟩

/-! ## What bounded work ends with -/

/-- A call is cancelled already, or an event wins, or nothing ever happens. -/
theorem cancelled_or_wins_or_never (cx : Context) (now : Instant) (delay : Option Duration) :
    cx.isCancelled now = true ∨ cx.isCancelled now = false ∧
      ((∃ w t, Wins cx now delay w t) ∨ ∀ w, occurs cx now delay w = none) := by
  cases live : cx.isCancelled now with
  | true => exact .inl rfl
  | false =>
    rcases ran : race cx now delay with _ | ⟨t, w⟩
    · exact .inr ⟨rfl, .inr ((race_eq_none_iff ..).1 ran)⟩
    · exact .inr ⟨rfl, .inl ⟨w, t, (race_eq_some_iff ..).1 ran⟩⟩

theorem cancelled_ne_deadlineExceeded : Refusal.cancelled ≠ Refusal.deadlineExceeded := by
  intro same
  exact absurd (congrArg (·.failure.code) same) (by decide)

/-- Bounded work that ends with an error has lost its race, to the cancellation or the deadline. -/
theorem lost_of_error {refusal : Refusal}
    (ends : (bounded cx now work).ending = some (t, .error refusal)) :
    cx.isCancelled now = true ∧ t = now ∧ refusal = .cancelled ∨
      cx.isCancelled now = false ∧ (Wins cx now work.delay .cancellation t ∧ refusal = .cancelled ∨
        Wins cx now work.delay .deadline t ∧ refusal = .deadlineExceeded) := by
  rcases cancelled_or_wins_or_never cx now work.delay with
    cancelled | ⟨live, ⟨w, u, wins⟩ | never⟩
  · rw [bounded_cancelled work cancelled] at ends
    cases ends
    exact .inl ⟨cancelled, rfl, rfl⟩
  · rw [bounded_of_wins work live wins] at ends
    cases w with
    | work => cases ends
    | cancellation =>
      cases ends
      exact .inr ⟨live, .inl ⟨wins, rfl⟩⟩
    | deadline =>
      cases ends
      exact .inr ⟨live, .inr ⟨wins, rfl⟩⟩
  · rw [bounded_endless work live never] at ends
    cases ends

/-- Work that lost its race might have had any other value. -/
theorem bounded_of_error {refusal : Refusal}
    (ends : (bounded cx now work).ending = some (t, .error refusal)) (other : α) :
    bounded cx now { work with value := other } = bounded cx now work := by
  rcases lost_of_error work ends with
    ⟨cancelled, -, -⟩ | ⟨live, ⟨wins, -⟩ | ⟨wins, -⟩⟩
  · rw [bounded_cancelled _ cancelled, bounded_cancelled _ cancelled]
  · rw [bounded_of_wins work live wins,
      bounded_of_wins { work with value := other } live (w := .cancellation) wins]
    rfl
  · rw [bounded_of_wins work live wins,
      bounded_of_wins { work with value := other } live (w := .deadline) wins]
    rfl

/-- The task of bounded work ends as the work does. -/
theorem course_ending {wakes : List Instant} (woken : WakeUps cx now work.delay wakes) :
    (course cx now work wakes).ending = (bounded cx now work).ending := by
  rcases cancelled_or_wins_or_never cx now work.delay with
    cancelled | ⟨live, ⟨w, t, wins⟩ | never⟩
  · rw [course_of_cancelled work woken cancelled, bounded_cancelled work cancelled]
    rfl
  · obtain ⟨before, -, run⟩ := course_of_wins work woken live wins
    rw [run, bounded_of_wins work live wins]
  · rw [course_of_endless work wakes never, bounded_endless work live never]

/-- Work leaves the traces of its start exactly if it is polled at all. -/
theorem events_eq {wakes : List Instant} (woken : WakeUps cx now work.delay wakes) :
    (bounded cx now work).events =
      if (course cx now work wakes).polls = [] then [] else work.opening := by
  cases live : cx.isCancelled now with
  | true =>
    rw [course_of_cancelled work woken live, bounded_cancelled work live]
    rfl
  | false => rw [bounded_of_race work live, if_neg (polls_ne_nil work woken live)]

/-- Work that lost its race is not polled after it, and a cancellation comes before the poll. -/
theorem polls_of_error {wakes : List Instant} {refusal : Refusal}
    (woken : WakeUps cx now work.delay wakes)
    (ends : (bounded cx now work).ending = some (t, .error refusal)) :
    ∀ p ∈ (course cx now work wakes).polls, p ≤ t ∧ (refusal = .cancelled → p < t) := by
  rcases lost_of_error work ends with
    ⟨cancelled, -, -⟩ | ⟨live, ⟨wins, -⟩ | ⟨wins, rfl⟩⟩
  · simp [course_of_cancelled work woken cancelled]
  · obtain ⟨before, sooner, run⟩ := course_of_wins work woken live wins
    intro p member
    have earlier : p < t := sooner p (by simpa [run] using member)
    exact ⟨Nat.le_of_lt earlier, fun _ => earlier⟩
  · obtain ⟨before, sooner, run⟩ := course_of_wins work woken live wins
    intro p member
    have cases : p ∈ before ∨ p = t := by simpa [run] using member
    have bound : p ≤ t := cases.elim (fun early => Nat.le_of_lt (sooner p early)) Nat.le_of_eq
    exact ⟨bound, fun same => absurd same.symm cancelled_ne_deadlineExceeded⟩

/-- How bounded work ends, when, and what its task polls on the way. -/
structure Resolves {α : Type} (cx : Context) (now : Instant) (work : Work α) : Prop where
  /-- Work is ready at once or at any later instant. -/
  readiness : ∀ t, (∃ d, occurs cx now (some d) .work = some t) ↔ now ≤ t
  /-- A call is cancelled at any instant whatever. -/
  cancellation : ∀ c, occurs { cx with cancelledAt := some c } now work.delay .cancellation = some c
  /-- The timer of a deadline fires on a whole millisecond, the first one that is not before the
  deadline, and at once if that has passed. -/
  timer : ∀ d, cx.deadline = some d → ∃ u, IsLeast {v : Nat | 1_000_000 ∣ v ∧ d ≤ v} u ∧
    occurs cx now work.delay .deadline = some (max now u)
  /-- A call is cancelled that is cancelled already, or before anything else happens. -/
  cancelled : ∀ c, Preempts cx now work.delay c →
    (bounded cx now work).ending = some (max now c, .error .cancelled)
  /-- Otherwise work that is ready by the time the deadline fires gives its value. -/
  finished : ∀ t, (∀ c, ¬ Preempts cx now work.delay c) →
    occurs cx now work.delay .work = some t →
    (∀ s, occurs cx now work.delay .deadline = some s → t ≤ s) →
    (bounded cx now work).ending = some (t, .ok work.value)
  /-- Otherwise the deadline ends it. -/
  expired : ∀ t, (∀ c, ¬ Preempts cx now work.delay c) →
    occurs cx now work.delay .deadline = some t → Before t (occurs cx now work.delay .work) →
    (bounded cx now work).ending = some (t, .error .deadlineExceeded)
  /-- Without any of the three it never ends. -/
  endless : (∀ c, ¬ Preempts cx now work.delay c) → occurs cx now work.delay .work = none →
    occurs cx now work.delay .deadline = none → (bounded cx now work).ending = none
  /-- No deadline counts before it is reached, and no time is left then. -/
  punctual : ∀ t, (bounded cx now work).ending = some (t, .error .deadlineExceeded) →
    ∃ d, cx.deadline = some d ∧ d ≤ t ∧ cx.remaining t = some 0
  /-- The time that is left, at the end as at any other instant. -/
  remaining : ∀ t d, cx.deadline = some d →
    ∃ left, cx.remaining t = some left ∧ (t ≤ d → t + left = d) ∧ (d ≤ t → left = 0)
  /-- A task that polls the work ends the same way, however often it is woken. -/
  polled : ∀ wakes, WakeUps cx now work.delay wakes →
    (course cx now work wakes).ending = (bounded cx now work).ending
  woken : ∃ wakes, WakeUps cx now work.delay wakes
  /-- The work leaves its traces exactly if it is polled. -/
  traced : ∀ wakes, WakeUps cx now work.delay wakes → (bounded cx now work).events =
    if (course cx now work wakes).polls = [] then [] else work.opening
  /-- Where the call is cancelled already, it never is. -/
  unpolled : cx.isCancelled now = true → ∀ wakes, WakeUps cx now work.delay wakes →
    (course cx now work wakes).polls = []
  /-- After a cancellation or a deadline it never is again. -/
  dropped : ∀ wakes, WakeUps cx now work.delay wakes → ∀ t refusal,
    (bounded cx now work).ending = some (t, .error refusal) →
    ∀ p ∈ (course cx now work wakes).polls, p ≤ t ∧ (refusal = .cancelled → p < t)
  /-- And its value is lost. -/
  lost : ∀ t refusal, (bounded cx now work).ending = some (t, .error refusal) →
    ∀ other, bounded cx now { work with value := other } = bounded cx now work

theorem bounded_resolves (untied : Untied cx now work.delay) : Resolves cx now work where
  readiness t := by
    simp only [occurs, Option.map_some, Option.some.injEq]
    constructor
    · rintro ⟨d, rfl⟩
      exact Nat.le_add_right now d
    · exact fun later => ⟨t - now, Nat.add_sub_of_le later⟩
  cancellation _ := rfl
  timer d bound := ⟨tick d, tick_isLeast d, by simp [occurs, bound, fires]⟩
  cancelled c preempts := by
    rcases Nat.lt_or_ge now c with ahead | past
    · obtain ⟨live, wins⟩ := wins_cancellation preempts ahead
      rw [bounded_of_wins work live wins, Nat.max_eq_right (Nat.le_of_lt ahead)]
      rfl
    · rw [bounded_cancelled work ((isCancelled_iff preempts.cancels).2 past),
        Nat.max_eq_left past]
      rfl
  finished t free happens timely := by
    rw [bounded_of_wins work (live_of_unpreempted free) (wins_work untied free happens timely)]
    rfl
  expired t free happens busy := by
    rw [bounded_of_wins work (live_of_unpreempted free) (wins_deadline untied free happens busy)]
    rfl
  endless free unready unbounded := by
    have live := live_of_unpreempted free
    have uncancelled : occurs cx now work.delay .cancellation = none := by
      cases cancels : cx.cancelledAt with
      | none => exact cancels
      | some c =>
        exact absurd ⟨cancels, .inr ⟨by simp [Before, unready], by simp [Before, unbounded]⟩⟩
          (free c)
    have never : ∀ w, occurs cx now work.delay w = none := by
      rintro (_ | _ | _)
      · exact unready
      · exact uncancelled
      · exact unbounded
    rw [bounded_endless work live never]
  punctual t ends := by
    rcases lost_of_error work ends with ⟨-, -, same⟩ | ⟨-, ⟨-, same⟩ | ⟨wins, -⟩⟩
    · exact absurd same.symm cancelled_ne_deadlineExceeded
    · exact absurd same.symm cancelled_ne_deadlineExceeded
    · obtain ⟨d, bound, rfl⟩ := Option.map_eq_some_iff.1 wins.occurs
      have reached : d ≤ fires now d := Nat.le_trans (le_tick d) (Nat.le_max_right _ _)
      exact ⟨d, bound, reached, by simp [Context.remaining, bound, Nat.sub_eq_zero_of_le reached]⟩
  remaining t d bound :=
    ⟨d - t, by simp [Context.remaining, bound], Nat.add_sub_of_le, Nat.sub_eq_zero_of_le⟩
  polled _ woken := course_ending work woken
  woken := exists_wakeUps cx now work.delay
  traced _ woken := events_eq work woken
  unpolled cancelled _ woken := by rw [course_of_cancelled work woken cancelled]
  dropped _ woken _ _ ends := polls_of_error work woken ends
  lost _ _ ends := bounded_of_error work ends

end

/-! ## A dead heat -/

/-- A call with a deadline between two whole milliseconds, and a cancellation after that. -/
def pressedContext : Context :=
  { requestId := "req-1", deadline := some 2_500_000, cancelledAt := some 5_000_000 }

/-- Work that is ready in the instant in which the timer of the deadline fires. -/
def closeWork : Work Nat := ⟨[], 7, some 2_000_000⟩

/-- Started after one millisecond, it is done after three. -/
theorem closeWork_finished : Untied pressedContext 1_000_000 closeWork.delay ∧
    (∀ c, ¬ Preempts pressedContext 1_000_000 closeWork.delay c) ∧
    occurs pressedContext 1_000_000 closeWork.delay .work = some 3_000_000 ∧
    occurs pressedContext 1_000_000 closeWork.delay .deadline = some 3_000_000 ∧
    (bounded pressedContext 1_000_000 closeWork).ending = some (3_000_000, .ok 7) := by
  have cancels : ∀ c, pressedContext.cancelledAt = some c → c = 5_000_000 := by
    intro c given
    exact (Option.some.inj given).symm
  have ready : occurs pressedContext 1_000_000 closeWork.delay .work = some 3_000_000 := rfl
  have fired : occurs pressedContext 1_000_000 closeWork.delay .deadline = some 3_000_000 := rfl
  have untied : Untied pressedContext 1_000_000 closeWork.delay := by
    intro c given _
    rw [cancels c given, ready, fired]
    decide
  have free : ∀ c, ¬ Preempts pressedContext 1_000_000 closeWork.delay c := by
    rintro c ⟨given, first⟩
    rw [cancels c given] at first
    rcases first with past | ⟨work, -⟩
    · exact absurd past (by decide)
    · exact absurd (work _ ready) (by decide)
  refine ⟨untied, free, ready, fired, ?_⟩
  apply (bounded_resolves closeWork untied).finished 3_000_000 free ready
  intro s fires
  exact Nat.le_of_eq (Option.some.inj (fired.symm.trans fires))

end DeviceAdmission.Gate
