import DeviceAdmission.Config.Basic

/-!
# What format policies accept

A policy checks emptiness, length and characters one after the other. `Accepted` says what it comes
to for an id that passes, and `Tightens` when one policy asks at least what another asks.

* `check_eq_ok_iff`, `accepts_iff`: the check passes exactly the accepted ids.
* `Tightens.accepted`: a tighter policy accepts nothing that the other refuses.
* `policy_tightens_default`: every configuration asks for a policy that tightens the fleet's.
-/
namespace DeviceAdmission

namespace DeviceId.Policy

/-- The policy has nothing against an id. -/
structure Accepted (policy : Policy) (id : String) : Prop where
  nonempty : id ≠ ""
  length : id.toList.length ≤ policy.limit
  clean : ∀ c ∈ id.toList, policy.isForbidden c = false

theorem check_eq_ok_iff (policy : Policy) (id : String) :
    policy.check id = .ok () ↔ policy.Accepted id := by
  have empty : id.toList.isEmpty = true ↔ id = "" := by simp
  constructor
  · intro passed
    unfold check at passed
    dsimp only at passed
    split at passed
    case isTrue => cases passed
    case isFalse named =>
      split at passed
      case isTrue => cases passed
      case isFalse short =>
        split at passed
        case h_1 => cases passed
        case h_2 clean =>
          refine ⟨mt empty.2 named, Nat.le_of_not_lt short, fun c member => ?_⟩
          exact Bool.eq_false_iff.2 (List.find?_eq_none.1 clean c member)
  · rintro ⟨nonempty, length, clean⟩
    have none : id.toList.find? policy.isForbidden = none := by
      rw [List.find?_eq_none]
      intro c member
      rw [clean c member]
      exact Bool.false_ne_true
    unfold check
    dsimp only
    rw [if_neg (mt empty.1 nonempty), if_neg (Nat.not_lt.2 length), none]

theorem accepts_iff (policy : Policy) (id : String) :
    policy.accepts id = true ↔ policy.Accepted id := by
  rw [← check_eq_ok_iff, accepts]
  cases policy.check id <;> simp [Except.isOk, Except.toBool]

/-- One policy asks at least what another asks. -/
structure Tightens (p q : Policy) : Prop where
  limit : p.limit ≤ q.limit
  forbids : ∀ c, q.isForbidden c = true → p.isForbidden c = true

theorem Tightens.accepted {p q : Policy} {id : String} (tightens : p.Tightens q)
    (accepted : p.Accepted id) : q.Accepted id where
  nonempty := accepted.nonempty
  length := Nat.le_trans accepted.length tightens.limit
  clean c member := by
    rw [Bool.eq_false_iff]
    intro forbidden
    have clean := accepted.clean c member
    rw [tightens.forbids c forbidden] at clean
    cases clean

end DeviceId.Policy

namespace Config

/-- Operators can only tighten the policy of the fleet. -/
theorem policy_tightens_default (config : Config) :
    config.policy.Tightens DeviceId.Policy.default where
  limit := by
    show max 1 (min config.deviceId.maxLength.toNat DeviceId.maxLength) ≤ DeviceId.maxLength
    unfold DeviceId.maxLength
    omega
  forbids c forbidden := by
    simp only [DeviceId.Policy.isForbidden, DeviceId.Policy.default, List.contains_nil,
      Bool.or_false] at forbidden
    simp only [DeviceId.Policy.isForbidden, forbidden, Bool.true_or]

end Config

end DeviceAdmission
