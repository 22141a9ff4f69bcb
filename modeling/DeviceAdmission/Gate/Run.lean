import DeviceAdmission.Call.Context
import DeviceAdmission.Delegate.Basic
import DeviceAdmission.Gate.Refusal

/-!
# Timed runs

What happens to a call: events in their order, and an end with a value at some instant, or no end.
`bounded` runs work in the bounds of a context. Work is done and calls are cancelled at any instant;
the timer of a deadline fires on whole milliseconds. Of what happens in one instant, a cancellation
counts first, then the work, then the deadline; work that is ready when it is looked at for the first
time is done even if the deadline has passed.
-/
namespace DeviceAdmission.Gate

open Call (Context Instant Duration)

/-- The record of a caller that its delegate turned away. -/
structure Denial where
  requestId : String
  method : String
  deviceId : String
  error : Failure.AuditView

inductive Event where
  /-- A delegate was asked. -/
  | consulted (input : Delegate.Input)
  /-- A delegate turned the caller away. -/
  | denied (record : Denial)
  /-- The handler was invoked. -/
  | handled (method : String) (message : Message) (cx : Context) (now : Instant)

structure Run (α : Type) where
  events : List Event
  /-- The instant and the value of the end. -/
  ending : Option (Instant × α)

namespace Run

/-- A run that ends where it starts. -/
def done {α : Type} (now : Instant) (value : α) : Run α := ⟨[], some (now, value)⟩

/-- Puts events before those of a run. -/
def after {α : Type} (events : List Event) (r : Run α) : Run α :=
  { r with events := events ++ r.events }

/-- Continues a run from its end; what never ends is never continued. -/
def andThen {α β : Type} (r : Run α) (next : Instant → α → Run β) : Run β :=
  match r.ending with
  | none => ⟨r.events, none⟩
  | some (now, value) => (next now value).after r.events

def map {α β : Type} (f : α → β) (r : Run α) : Run β :=
  ⟨r.events, r.ending.map fun (now, value) => (now, f value)⟩

end Run

/-- Work with the events of its start, and the time it takes unless it never ends. -/
structure Work (α : Type) where
  opening : List Event := []
  value : α
  delay : Option Duration

/-- The next whole millisecond. -/
def tick (t : Instant) : Instant := Duration.ofMillis (Duration.millisUp t)

/-- When the timer of a deadline fires, seen from now. -/
def fires (now deadline : Instant) : Instant := max now (tick deadline)

/-- Which of the three events of a race comes first. -/
inductive Winner where
  | work | cancellation | deadline
  deriving DecidableEq, Repr

/-- The earlier of two events; the first wins a tie. -/
def earlier (a b : Option (Instant × Winner)) : Option (Instant × Winner) :=
  match a, b with
  | some (s, x), some (t, y) => if s ≤ t then some (s, x) else some (t, y)
  | some e, none => some e
  | none, other => other

/-- The race between the cancellation, the work and the deadline of a call that is not cancelled
yet. -/
def race (cx : Context) (now : Instant) (delay : Option Duration) : Option (Instant × Winner) :=
  earlier (cx.cancelledAt.map (·, .cancellation)) <|
    earlier (delay.map fun d => (now + d, .work))
      (cx.deadline.map fun d => (fires now d, .deadline))

/-- Runs work until it ends, the call is cancelled, or the deadline passes. Work for a call that is
cancelled already is not started. -/
def bounded {α : Type} (cx : Context) (now : Instant) (work : Work α) : Run (Except Refusal α) :=
  if cx.isCancelled now then Run.done now (.error .cancelled)
  else
    Run.after work.opening ⟨[], (race cx now work.delay).map fun (t, winner) =>
      (t, match winner with
        | .work => .ok work.value
        | .cancellation => .error .cancelled
        | .deadline => .error .deadlineExceeded)⟩

end DeviceAdmission.Gate
