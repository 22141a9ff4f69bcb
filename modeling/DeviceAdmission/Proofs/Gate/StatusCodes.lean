import DeviceAdmission.Gate.Refusal

/-!
# Status codes of refusals

The register gives each of its codes the code of the status that is sent, but `Refusal.toStatus` sends
the number that the failure itself holds. So the two agree as far as every failure takes its number
from the register:

* `Failure.Built.asRegistered`: a failure that is made from a code does.
* `Refusal.shape_failure`: messages, notes, a correlation id, a response and its encoding change
  neither the code of a refusal nor what else the register says of it.
* `Refusal.sent_registered`: the constructors send the registered code, and a failure from elsewhere
  does exactly if it holds the number of its code. The register lists no success, so it is the number
  0 that travels as one.
* `mislabelled_sent_as_ok`: a document is not asked whether its number is that of its code.
-/
namespace DeviceAdmission

namespace Failure

/-! ## What the register says of a failure -/

/-- A failure's own version of the register's entry. -/
def entry (f : Failure) : Spec :=
  { kind := f.kind, httpStatus := f.httpStatus, grpcStatus := f.grpcStatus,
    retryable := f.retryable, severity := f.severity, message := f.messageUser }

/-- A failure is as the register has its code; only the text for the caller is free. -/
def AsRegistered (f : Failure) : Prop :=
  ∃ spec, f.code.spec? = some spec ∧ f.entry = { spec with message := f.messageUser }

/-- The failures that are made from a code. -/
inductive Built : Failure → Prop where
  | ofCode (code : Code) : Built (ofCode code)
  | withUser {f : Failure} (message : String) : Built f → Built (f.withUser message)
  | withDev {f : Failure} (message : String) : Built f → Built (f.withDev message)
  | withNote {f : Failure} (key : String) (value : Json) : Built f → Built (f.withNote key value)
  | withCorrelation {f : Failure} (id : String) : Built f → Built (f.withCorrelation id)

theorem spec?_coe (code : Code) : (code : CodeName).spec? = some code.spec := by
  cases code <;> rfl

theorem Built.asRegistered {f : Failure} (built : Built f) : f.AsRegistered := by
  induction built with
  | ofCode code => exact ⟨code.spec, spec?_coe code, rfl⟩
  | withUser message _ ih =>
    obtain ⟨spec, found, same⟩ := ih
    exact ⟨spec, found, congrArg (fun entry => { entry with message }) same⟩
  | withDev _ _ ih | withNote _ _ _ ih | withCorrelation _ _ ih => exact ih

/-- Every registered status is in the table, and none is success or the unknown code. -/
theorem spec?_grpcStatus {code : CodeName} {spec : Spec} (found : code.spec? = some spec) :
    (0 < spec.grpcStatus.toInt ∧ spec.grpcStatus.toInt < 17) ∧ spec.grpcStatus.toInt ≠ 2 := by
  obtain ⟨known, -, rfl⟩ := Option.map_eq_some_iff.1 found
  cases known <;> decide

end Failure

namespace Refusal

/-! ## Where refusals come from -/

/-- How a refusal comes about: by one of the constructors, or around a failure from elsewhere. -/
inductive Origin where
  | permissionDenied (message : String)
  | invalidArgument (message : String)
  | cancelled
  | deadlineExceeded
  | internal (message : String)
  | failure (f : Failure)

def Origin.refusal : Origin → Refusal
  | .permissionDenied message => Refusal.permissionDenied message
  | .invalidArgument message => Refusal.invalidArgument message
  | .cancelled => Refusal.cancelled
  | .deadlineExceeded => Refusal.deadlineExceeded
  | .internal message => Refusal.internal message
  | .failure f => .ofFailure f

/-- What can be done to a refusal afterwards. -/
inductive Shaping where
  | dev (message : String)
  | note (key : String) (value : Json)
  | correlate (id : String)
  | response (value : Message)
  | details (encoded : List UInt8)

def Shaping.apply (r : Refusal) : Shaping → Refusal
  | .dev message => r.withDev message
  | .note key value => r.withNote key value
  | .correlate id => r.correlate id
  | .response value => r.withResponse value
  | .details encoded => r.withDetails encoded

def shape (r : Refusal) (steps : List Shaping) : Refusal := steps.foldl Shaping.apply r

theorem Shaping.apply_failure (r : Refusal) (step : Shaping) :
    (step.apply r).failure.code = r.failure.code ∧
      (step.apply r).failure.entry = r.failure.entry := by
  cases step with
  | correlate id =>
    have kept (f : Failure) : (f.correlate id).code = f.code ∧ (f.correlate id).entry = f.entry := by
      unfold Failure.correlate
      cases f.correlationId <;> exact ⟨rfl, rfl⟩
    exact kept r.failure
  | _ => exact ⟨rfl, rfl⟩

theorem shape_failure (r : Refusal) (steps : List Shaping) :
    (r.shape steps).failure.code = r.failure.code ∧
      (r.shape steps).failure.entry = r.failure.entry := by
  induction steps generalizing r with
  | nil => exact ⟨rfl, rfl⟩
  | cons step rest ih =>
    obtain ⟨code, entry⟩ := step.apply_failure r
    exact ⟨(ih _).1.trans code, (ih _).2.trans entry⟩

/-! ## What is sent -/

/-- Whether a refusal is sent with the code that the register gives its failure code. -/
def Registered (r : Refusal) : Prop :=
  ∃ spec, r.failure.code.spec? = some spec ∧ (r.toStatus.code.val : Int) = spec.grpcStatus.toInt

theorem toStatus_code_val (r : Refusal) :
    (r.toStatus.code.val : Int) =
      if 0 ≤ r.failure.grpcStatus.toInt ∧ r.failure.grpcStatus.toInt < 17 then
        r.failure.grpcStatus.toInt
      else 2 := by
  simp only [toStatus, Grpc.StatusCode.ofInt]
  split
  · rename_i inTable
    exact Int.toNat_of_nonneg inTable.1
  · rfl

/-- The unknown code, which stands for the numbers outside the table, is nobody's in the register. -/
theorem registered_iff (r : Refusal) :
    r.Registered ↔
      ∃ spec, r.failure.code.spec? = some spec ∧ r.failure.grpcStatus = spec.grpcStatus := by
  refine exists_congr fun spec => and_congr_right fun found => ?_
  obtain ⟨inTable, known⟩ := Failure.spec?_grpcStatus found
  rw [toStatus_code_val, ← Int32.toInt_inj]
  split <;> omega

theorem toStatus_code_eq_ok_iff (r : Refusal) :
    r.toStatus.code = .ok ↔ r.failure.grpcStatus = 0 := by
  have sent := r.toStatus_code_val
  rw [Fin.ext_iff, ← Int32.toInt_inj, Int32.toInt_zero,
    show (Grpc.StatusCode.ok : Grpc.StatusCode).val = 0 from rfl]
  split at sent <;> omega

theorem Registered.not_ok {r : Refusal} (registered : r.Registered) : r.toStatus.code ≠ .ok := by
  intro sent
  obtain ⟨spec, found, number⟩ := registered
  have positive := (Failure.spec?_grpcStatus found).1.1
  rw [← number, sent] at positive
  exact absurd positive (by decide)

theorem registered_of_asRegistered {r : Refusal} (agrees : r.failure.AsRegistered) :
    r.Registered := by
  obtain ⟨spec, found, same⟩ := agrees
  exact r.registered_iff.mpr ⟨spec, found, congrArg Failure.Spec.grpcStatus same⟩

/-- How a refusal of an origin is sent once it has been shaped. -/
structure Sent (origin : Origin) (steps : List Shaping) : Prop where
  /-- Shaping keeps the failure code, the columns of the register and the text for the caller. -/
  kept : (origin.refusal.shape steps).failure.code = origin.refusal.failure.code ∧
    (origin.refusal.shape steps).failure.entry = origin.refusal.failure.entry
  /-- The constructors send the registered code. -/
  constructed : (∀ f, origin ≠ .failure f) → (origin.refusal.shape steps).Registered
  /-- So does a failure that was made from a code. -/
  built : ∀ f : Failure, origin = .failure f → f.Built →
    (origin.refusal.shape steps).Registered
  /-- A failure from elsewhere does exactly if its code is registered and it holds the number of its
  code. -/
  received : ∀ f, origin = .failure f → ((origin.refusal.shape steps).Registered ↔
    ∃ spec, f.code.spec? = some spec ∧ f.grpcStatus = spec.grpcStatus)
  /-- Success is sent for a failure that holds the number of success, and for nothing else. -/
  ok_iff : (origin.refusal.shape steps).toStatus.code = .ok ↔
    ∃ f, origin = .failure f ∧ f.grpcStatus = 0

theorem Origin.built (origin : Origin) (own : ∀ f, origin ≠ .failure f) :
    origin.refusal.failure.Built := by
  cases origin with
  | permissionDenied message => exact .withUser message (.ofCode _)
  | invalidArgument message => exact .withUser message (.ofCode _)
  | cancelled => exact .ofCode _
  | deadlineExceeded => exact .ofCode _
  | internal message => exact .withDev message (.ofCode _)
  | failure f => exact absurd rfl (own f)

theorem sent_registered (origin : Origin) (steps : List Shaping) : Sent origin steps := by
  obtain ⟨code, entry⟩ := origin.refusal.shape_failure steps
  have number : (origin.refusal.shape steps).failure.grpcStatus =
      origin.refusal.failure.grpcStatus := congrArg Failure.Spec.grpcStatus entry
  have text : (origin.refusal.shape steps).failure.messageUser =
      origin.refusal.failure.messageUser := congrArg Failure.Spec.message entry
  have registered (built : origin.refusal.failure.Built) :
      (origin.refusal.shape steps).Registered := by
    refine registered_of_asRegistered ?_
    rw [Failure.AsRegistered, code, entry, text]
    exact built.asRegistered
  refine ⟨⟨code, entry⟩, fun own => registered (origin.built own), ?built, ?received, ?ok_iff⟩
  case built =>
    rintro f rfl built
    exact registered built
  case received =>
    rintro f rfl
    rw [registered_iff, number, code]
    rfl
  case ok_iff =>
    rw [toStatus_code_eq_ok_iff, number]
    constructor
    · intro zero
      by_cases elsewhere : ∃ f, origin = .failure f
      · obtain ⟨f, rfl⟩ := elsewhere
        exact ⟨f, rfl, zero⟩
      · -- a constructor's refusal is registered, and the register lists no success
        have own : ∀ f, origin ≠ .failure f := fun f is => elsewhere ⟨f, is⟩
        refine absurd ?_ (registered (origin.built own)).not_ok
        rw [toStatus_code_eq_ok_iff, number, zero]
    · rintro ⟨f, rfl, zero⟩
      exact zero

/-! ## A failure from a document -/

/-- A denial whose document says that its status is success. -/
def mislabelled : String :=
  "\x7b\"code\":\"AUTH.PERMISSION_DENIED\",\"kind\":\"Auth\"," ++
  "\"message_user\":\"permission denied\",\"http_status\":403,\"grpc_status\":0," ++
  "\"retryable\":\"Never\",\"severity\":\"Warn\"\x7d"

theorem mislabelled_sent_as_ok : ∃ f, Failure.parse mislabelled = .ok f ∧
    f.code = Failure.Code.permissionDenied ∧ ¬ (ofFailure f).Registered ∧
    (ofFailure f).toStatus.code = .ok := by
  have read : (Failure.parse mislabelled).toOption.map (fun f => (f.code, f.grpcStatus)) =
      some ((Failure.Code.permissionDenied : Failure.CodeName), 0) := by
    decide +kernel
  rcases parsed : Failure.parse mislabelled with _ | f
  · simp [parsed, Except.toOption] at read
  · simp only [parsed, Except.toOption, Option.map_some, Option.some.injEq, Prod.mk.injEq] at read
    obtain ⟨code, number⟩ := read
    have sent : (ofFailure f).toStatus.code = .ok := (toStatus_code_eq_ok_iff _).mpr number
    exact ⟨f, rfl, code, fun registered => registered.not_ok sent, sent⟩

end Refusal

end DeviceAdmission
