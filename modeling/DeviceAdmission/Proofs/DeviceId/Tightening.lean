import DeviceAdmission.Proofs.DeviceId.Policy

/-!
# Policies that operators build

An operator states a greatest length and then forbids characters, one list after another. What comes
of it is said in terms of the number and the lists alone: `Barred` tells the characters that no id
may contain, and `Breaks` the first rule that an id breaks.

* `isForbidden_build_iff`: each list adds its characters to the built-in ones, and takes none away.
* `check_eq_error_iff`: a check that fails names the first broken rule, and of the forbidden
  characters the leftmost.
* `operators_only_tighten`: so a policy is known from its number and the set of its characters, and
  no policy is looser than that of the fleet.
-/
namespace DeviceAdmission

namespace DeviceId.Policy

/-! ## Forbidden characters -/

/-- The policy with a greatest length that then forbids some lists, the first one first. -/
def build (longest : Nat) (lists : List (List Char)) : Policy :=
  lists.foldl forbid (ofLimit longest)

/-- A character stands in one of the lists. -/
def Listed (lists : List (List Char)) (c : Char) : Prop := ∃ cs ∈ lists, c ∈ cs

theorem listed_cons (cs : List Char) (rest : List (List Char)) (c : Char) :
    Listed (cs :: rest) c ↔ c ∈ cs ∨ Listed rest c := by
  simp [Listed]

/-- The characters that no id may contain. -/
inductive Barred (lists : List (List Char)) (c : Char) : Prop where
  | control (unprinted : Text.isControl c = true)
  | blank (white : Text.isBlank c = true)
  | symbol (builtIn : c ∈ forbiddenSymbols)
  | listed (chosen : Listed lists c)

@[simp] theorem limit_forbid (policy : Policy) (cs : List Char) :
    (policy.forbid cs).limit = policy.limit := rfl

theorem isForbidden_forbid_iff (policy : Policy) (cs : List Char) (c : Char) :
    (policy.forbid cs).isForbidden c = true ↔ policy.isForbidden c = true ∨ c ∈ cs := by
  unfold isForbidden forbid
  simp only [Bool.or_eq_true, List.contains_iff_mem, List.mem_append, or_assoc]

theorem limit_foldl_forbid (policy : Policy) (lists : List (List Char)) :
    (lists.foldl forbid policy).limit = policy.limit := by
  induction lists generalizing policy with
  | nil => rfl
  | cons cs rest ih => rw [List.foldl_cons, ih, limit_forbid]

theorem isForbidden_foldl_forbid_iff (policy : Policy) (lists : List (List Char)) (c : Char) :
    (lists.foldl forbid policy).isForbidden c = true ↔
      policy.isForbidden c = true ∨ Listed lists c := by
  induction lists generalizing policy with
  | nil => simp [Listed]
  | cons cs rest ih =>
    rw [List.foldl_cons, ih, isForbidden_forbid_iff, listed_cons, or_assoc]

theorem limit_build (longest : Nat) (lists : List (List Char)) :
    (build longest lists).limit = max 1 (min longest 256) :=
  limit_foldl_forbid (ofLimit longest) lists

theorem isForbidden_build_iff (longest : Nat) (lists : List (List Char)) (c : Char) :
    (build longest lists).isForbidden c = true ↔ Barred lists c := by
  have bare : (ofLimit longest).isForbidden c = true ↔
      Text.isControl c = true ∨ Text.isBlank c = true ∨ c ∈ forbiddenSymbols := by
    unfold isForbidden ofLimit
    simp [or_assoc]
  unfold build
  rw [isForbidden_foldl_forbid_iff, bare]
  constructor
  · rintro ((unprinted | white | builtIn) | chosen)
    · exact .control unprinted
    · exact .blank white
    · exact .symbol builtIn
    · exact .listed chosen
  · rintro (unprinted | white | builtIn | chosen)
    · exact .inl (.inl unprinted)
    · exact .inl (.inr (.inl white))
    · exact .inl (.inr (.inr builtIn))
    · exact .inr chosen

/-! ## Broken rules -/

/-- The first rule that an id breaks, of those on emptiness, length and characters in this order.
Too long an id is so whatever it contains. -/
inductive Breaks (limit : Nat) (barred : Char → Prop) (id : String) : Violation → Prop where
  | empty (bare : id = "") : Breaks limit barred id .empty
  | tooLong (long : limit < id.toList.length) :
      Breaks limit barred id (.tooLong id.toList.length limit)
  /-- All that stands to the left of the character is in order. -/
  | forbidden {before after : List Char} {c : Char} (short : id.toList.length ≤ limit)
      (split : id.toList = before ++ c :: after) (clean : ∀ d ∈ before, ¬ barred d)
      (bad : barred c) : Breaks limit barred id (.forbidden c)

theorem check_eq_error_iff (policy : Policy) (id : String) (violation : Violation) :
    policy.check id = .error violation ↔
      Breaks policy.limit (fun c => policy.isForbidden c = true) id violation := by
  have empty : id.toList.isEmpty = true ↔ id = "" := by simp
  constructor
  · intro failed
    unfold check at failed
    dsimp only at failed
    split at failed
    case isTrue bare =>
      cases failed
      exact .empty (empty.1 bare)
    case isFalse named =>
      split at failed
      case isTrue long =>
        cases failed
        exact .tooLong long
      case isFalse short =>
        split at failed
        case h_1 c found =>
          cases failed
          obtain ⟨bad, before, after, split, clean⟩ := List.find?_eq_some_iff_append.1 found
          exact .forbidden (Nat.le_of_not_lt short) split (by simpa using clean) bad
        case h_2 => cases failed
  · intro breaks
    unfold check
    cases breaks with
    | empty bare =>
      subst bare
      rfl
    | tooLong long =>
      have named : ¬ id.toList.isEmpty = true := by
        intro bare
        rw [List.isEmpty_iff.1 bare] at long
        exact absurd long (Nat.not_lt_zero _)
      dsimp only
      rw [if_neg named, if_pos long]
    | @forbidden before after c short split clean bad =>
      have named : ¬ id.toList.isEmpty = true := by simp [split]
      have found : id.toList.find? policy.isForbidden = some c := by
        apply List.find?_eq_some_iff_append.2
        exact ⟨bad, before, after, split, by simpa using clean⟩
      dsimp only
      rw [if_neg named, if_neg (Nat.not_lt.2 short), found]

/-- The rules of a built policy are those that its number and its lists state. -/
theorem isForbidden_build (longest : Nat) (lists : List (List Char)) :
    (fun c => (build longest lists).isForbidden c = true) = Barred lists := by
  funext c
  exact propext (isForbidden_build_iff longest lists c)

/-! ## Looser and tighter policies -/

/-- A smaller number and more characters make a policy tighter. -/
theorem build_tightens {longest other : Nat} {lists others : List (List Char)}
    (shorter : longest ≤ other) (more : ∀ c, Listed others c → Listed lists c) :
    (build longest lists).Tightens (build other others) where
  limit := by
    rw [limit_build, limit_build]
    omega
  forbids c forbidden := by
    rw [isForbidden_build_iff] at forbidden ⊢
    cases forbidden with
    | control unprinted => exact .control unprinted
    | blank white => exact .blank white
    | symbol builtIn => exact .symbol builtIn
    | listed chosen => exact .listed (more c chosen)

/-- The fleet's policy is the one of an operator who states its number and forbids nothing. -/
theorem default_eq_build : default = build maxLength [] := rfl

theorem build_tightens_default (longest : Nat) (lists : List (List Char)) :
    (build longest lists).Tightens default := by
  have least : build longest lists = build (min longest maxLength) lists := by
    unfold build ofLimit
    rw [Nat.min_assoc, Nat.min_self]
  rw [least, default_eq_build]
  apply build_tightens (Nat.min_le_right _ _)
  intro c chosen
  simp [Listed] at chosen

theorem Tightens.accepts {p q : Policy} {id : String} (tightens : p.Tightens q)
    (accepted : p.accepts id = true) : q.accepts id = true := by
  rw [accepts_iff] at accepted ⊢
  exact tightens.accepted accepted

/-- Policies with the same limit and the same forbidden characters check alike. -/
theorem check_congr {p q : Policy} (limit : p.limit = q.limit)
    (forbids : p.isForbidden = q.isForbidden) : p.check = q.check := by
  funext id
  unfold check
  rw [limit, forbids]

theorem isForbidden_congr (longest : Nat) {lists others : List (List Char)}
    (same : ∀ c, Listed lists c ↔ Listed others c) :
    (build longest lists).isForbidden = (build longest others).isForbidden := by
  funext c
  rw [Bool.eq_iff_iff]
  constructor
  · exact (build_tightens (Nat.le_refl _) fun c => (same c).1).forbids c
  · exact (build_tightens (Nat.le_refl _) fun c => (same c).2).forbids c

end DeviceId.Policy

open DeviceId DeviceId.Policy

/-- What operators can make of the policy of the fleet. -/
structure OperatorsOnlyTighten : Prop where
  /-- A policy passes exactly the ids that keep its rules. -/
  passes : ∀ (longest : Nat) (lists : List (List Char)) (id : String),
    (build longest lists).check id = .ok () ↔
      id ≠ "" ∧ id.toList.length ≤ max 1 (min longest 256) ∧ ∀ c ∈ id.toList, ¬ Barred lists c
  /-- Of any other id it tells the first rule that is broken. -/
  tells : ∀ (longest : Nat) (lists : List (List Char)) (id : String) (violation : Violation),
    (build longest lists).check id = .error violation ↔
      Breaks (max 1 (min longest 256)) (Barred lists) id violation
  /-- The policy of the fleet accepts what any policy accepts. -/
  fleet : ∀ (longest : Nat) (lists : List (List Char)) (id : String),
    (build longest lists).accepts id = true → Policy.default.accepts id = true
  /-- So with the policy of a configuration, whether it is valid or not. -/
  configured : ∀ (config : Config) (id : String),
    config.policy.accepts id = true → Policy.default.accepts id = true
  /-- No id is gained by a smaller number or more characters. -/
  tightened : ∀ (longest other : Nat) (lists others : List (List Char)) (id : String),
    longest ≤ other → (∀ c, Listed others c → Listed lists c) →
    (build longest lists).accepts id = true → (build other others).accepts id = true
  /-- Of the lists only the characters in them matter, not their order, how they are grouped and how
  often they are repeated. -/
  regrouped : ∀ (longest : Nat) (lists others : List (List Char)),
    (∀ c, Listed lists c ↔ Listed others c) →
    (build longest lists).limit = (build longest others).limit ∧
      (build longest lists).isForbidden = (build longest others).isForbidden ∧
      (build longest lists).check = (build longest others).check

theorem operators_only_tighten : OperatorsOnlyTighten where
  passes longest lists id := by
    rw [check_eq_ok_iff]
    constructor
    · rintro ⟨nonempty, length, clean⟩
      rw [limit_build] at length
      refine ⟨nonempty, length, fun c member barred => ?_⟩
      have forbidden := (isForbidden_build_iff longest lists c).2 barred
      rw [clean c member] at forbidden
      cases forbidden
    · rintro ⟨nonempty, length, clean⟩
      rw [← limit_build longest lists] at length
      refine ⟨nonempty, length, fun c member => Bool.eq_false_iff.2 fun forbidden => ?_⟩
      exact clean c member ((isForbidden_build_iff longest lists c).1 forbidden)
  tells longest lists id violation := by
    rw [check_eq_error_iff, isForbidden_build, limit_build]
  fleet longest lists id := (build_tightens_default longest lists).accepts
  configured config id := config.policy_tightens_default.accepts
  tightened longest other lists others id shorter more := (build_tightens shorter more).accepts
  regrouped longest lists others same := by
    have limit : (build longest lists).limit = (build longest others).limit := by
      rw [limit_build, limit_build]
    have forbids := isForbidden_congr longest same
    exact ⟨limit, forbids, check_congr limit forbids⟩

end DeviceAdmission
