import Mathlib.Data.Finset.Card
import DeviceAdmission.Delegate.Pinned

/-!
# Registers of pinned devices

A register keeps a list of entries, and pinning puts an entry at its front and drops any other for
the same device. Seen through `find?` it is a finite map from device ids.

* `find?_put`, `find?_revoke`: an operation changes what is found for its own device, and for no
  other.
* `Distinct`: no device has two entries. Every operation keeps this, and it makes `size` the number
  of devices that are pinned (`Distinct.size_eq_card`).
* `judge_eq_ok_iff`: whom the register accepts.
* `judge_eq_error_iff`: whom it turns away, and with which of its failures (`Declines`).
* `judge_put`, `judge_congr_leaf`: the entry for the claimed device and the leaf are all that counts.
-/
namespace DeviceAdmission.Delegate

/-- The entry lets its device call the method. -/
def PinnedDevice.Allows (device : PinnedDevice) (method : String) : Prop :=
  ∀ methods, device.methods = some methods → method ∈ methods

theorem PinnedDevice.all_contains_iff (device : PinnedDevice) (method : String) :
    device.methods.all (·.contains method) = true ↔ device.Allows method := by
  cases listed : device.methods <;> simp [PinnedDevice.Allows, listed]

namespace PinRegistry

/-! ## Lookups -/

@[simp] theorem find?_empty (id : String) : empty.find? id = none := rfl

/-- Dropping the entries of one device hides it and no other. -/
theorem find?_filter_ne (devices : List PinnedDevice) (dropped id : String) :
    (devices.filter (·.deviceId != dropped)).find? (·.deviceId == id) =
      if id = dropped then none else devices.find? (·.deviceId == id) := by
  rw [List.find?_filter]
  split
  case isTrue same =>
    subst same
    simp
  case isFalse different =>
    congr 1
    funext device
    by_cases found : device.deviceId = id
    · simp [found, different]
    · simp [found]

@[simp] theorem find?_put (r : PinRegistry) (device : PinnedDevice) (id : String) :
    (r.put device).find? id = if id = device.deviceId then some device else r.find? id := by
  unfold put find?
  rw [List.find?_cons, find?_filter_ne]
  by_cases same : id = device.deviceId
  · simp [same]
  · have other : (device.deviceId == id) = false := beq_false_of_ne (Ne.symm same)
    simp [same, other]

@[simp] theorem find?_revoke (r : PinRegistry) (revoked id : String) :
    (r.revoke revoked).2.find? id = if id = revoked then none else r.find? id :=
  find?_filter_ne r.devices revoked id

/-- No device has two entries. -/
def Distinct (r : PinRegistry) : Prop := (r.devices.map (·.deviceId)).Nodup

theorem nodup_filter {devices : List PinnedDevice} (keep : PinnedDevice → Bool)
    (distinct : (devices.map (·.deviceId)).Nodup) :
    ((devices.filter keep).map (·.deviceId)).Nodup :=
  distinct.sublist (List.filter_sublist.map _)

theorem Distinct.put {r : PinRegistry} (distinct : r.Distinct) (device : PinnedDevice) :
    (r.put device).Distinct := by
  have absent : device.deviceId ∉
      (r.devices.filter (·.deviceId != device.deviceId)).map (·.deviceId) := by
    simp
  exact List.nodup_cons.2 ⟨absent, nodup_filter _ distinct⟩

theorem Distinct.revoke {r : PinRegistry} (distinct : r.Distinct) (id : String) :
    (r.revoke id).2.Distinct := nodup_filter _ distinct

/-- The devices of a register. -/
def ids (r : PinRegistry) : Finset String := (r.devices.map (·.deviceId)).toFinset

theorem Distinct.size_eq_card {r : PinRegistry} (distinct : r.Distinct) :
    r.size = r.ids.card := by
  rw [ids, List.toFinset_card_of_nodup distinct, List.length_map, size]

/-! ## Verdicts -/

@[simp] theorem delegate_verdict (r : PinRegistry) (input : Input) :
    (r.delegate input).verdict = r.judge input := rfl

@[simp] theorem delegate_delay (r : PinRegistry) (input : Input) :
    (r.delegate input).delay = some 0 := rfl

/-- The register accepts a caller whose leaf and method are those of the entry for the device it
claims to be. -/
theorem judge_eq_ok_iff (r : PinRegistry) (input : Input) (leaf : Certificate)
    (presented : input.chain.leaf? = some leaf) :
    (∃ identity, r.judge input = .ok identity) ↔
      ∃ device, r.find? input.deviceId = some device ∧ leaf.fingerprint = device.fingerprint ∧
        device.Allows input.method := by
  unfold judge
  rcases found : r.find? input.deviceId with _ | device
  · simp
  · by_cases same : leaf.fingerprint = device.fingerprint
    · rcases listed : device.methods with _ | methods
      · simp [presented, same, PinnedDevice.Allows, listed]
      · by_cases allowed : input.method ∈ methods <;>
          simp [presented, same, PinnedDevice.Allows, listed, allowed]
    · simp [presented, same]

/-- Why a register turns a caller away, and what it says. -/
inductive Declines (r : PinRegistry) (input : Input) : Failure → Prop where
  /-- The claimed device is not pinned. -/
  | unknown (absent : r.find? input.deviceId = none) :
      Declines r input (.unauthenticated "device is not registered")
  /-- The caller presents no certificate. -/
  | leafless {device : PinnedDevice} (found : r.find? input.deviceId = some device)
      (bare : input.chain.leaf? = none) :
      Declines r input (.unauthenticated "no leaf certificate")
  /-- It presents another certificate than the pinned one. -/
  | mismatched {device : PinnedDevice} {leaf : Certificate}
      (found : r.find? input.deviceId = some device) (presented : input.chain.leaf? = some leaf)
      (other : leaf.fingerprint ≠ device.fingerprint) :
      Declines r input (.unauthenticated "certificate does not match registered device")
  /-- The device may not call the method. -/
  | barred {device : PinnedDevice} {leaf : Certificate}
      (found : r.find? input.deviceId = some device) (presented : input.chain.leaf? = some leaf)
      (same : leaf.fingerprint = device.fingerprint) (barred : ¬ device.Allows input.method) :
      Declines r input (.forbidden "method not allowed for device")

theorem judge_eq_error_iff (r : PinRegistry) (input : Input) (f : Failure) :
    r.judge input = .error f ↔ r.Declines input f := by
  constructor
  · intro judged
    unfold judge at judged
    split at judged
    case h_1 absent =>
      cases judged
      exact .unknown absent
    case h_2 device found =>
      split at judged
      case h_1 bare =>
        cases judged
        exact .leafless found bare
      case h_2 leaf presented =>
        split at judged
        case isTrue other =>
          cases judged
          exact .mismatched found presented (by simpa using other)
        case isFalse same =>
          split at judged
          case isTrue => cases judged
          case isFalse barred =>
            cases judged
            refine .barred found presented (by simpa using same) ?_
            rwa [← PinnedDevice.all_contains_iff]
  · rintro (⟨absent⟩ | ⟨found, bare⟩ | ⟨found, presented, other⟩ | ⟨found, presented, same, barred⟩)
    · simp [judge, absent]
    · simp [judge, found, bare]
    · simp [judge, found, presented, other]
    · rw [← PinnedDevice.all_contains_iff] at barred
      simp only [judge, found, presented, same, bne_self_eq_false, Bool.false_eq_true, if_false,
        if_neg barred]

/-- A caller that presents the certificate of a new entry, under its id, is accepted and named. -/
theorem judge_put {device : PinnedDevice} {leaf : Certificate} {method : String} (r : PinRegistry)
    (rest : Certificate.Chain) (same : leaf.fingerprint = device.fingerprint)
    (allowed : device.Allows method) :
    (r.put device).judge ⟨method, device.deviceId, leaf :: rest⟩ =
      .ok ⟨device.deviceId, method, [("fingerprint", .text leaf.fingerprint.hex)]⟩ := by
  rw [← PinnedDevice.all_contains_iff] at allowed
  have presented : Certificate.Chain.leaf? (leaf :: rest) = some leaf := rfl
  simp only [judge, find?_put, if_true, presented, same, bne_self_eq_false, Bool.false_eq_true,
    if_false, allowed]
  rfl

/-- Of a register only the entry of the claimed device matters, and of a chain only the leaf. -/
theorem judge_congr_leaf {r s : PinRegistry} {input other : Input}
    (entry : r.find? input.deviceId = s.find? other.deviceId)
    (deviceId : input.deviceId = other.deviceId) (method : input.method = other.method)
    (leaf : input.chain.leaf? = other.chain.leaf?) : r.judge input = s.judge other := by
  rw [deviceId] at entry
  simp only [judge, deviceId, entry, method, leaf]

/-- Only the entry of the claimed device matters. -/
theorem judge_congr {r s : PinRegistry} {input : Input}
    (same : r.find? input.deviceId = s.find? input.deviceId) : r.judge input = s.judge input :=
  judge_congr_leaf same rfl rfl rfl

/-- Whom the register accepts is the device that it claims to be. -/
theorem deviceId_of_judge {r : PinRegistry} {input : Input} {identity : Identity}
    (accepted : r.judge input = .ok identity) : identity.deviceId = input.deviceId := by
  unfold judge at accepted
  repeat' split at accepted
  all_goals cases accepted
  rfl

end PinRegistry

end DeviceAdmission.Delegate
