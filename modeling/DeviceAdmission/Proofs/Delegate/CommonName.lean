import DeviceAdmission.Delegate.CommonName
import DeviceAdmission.Proofs.Delegate.Pinned
import DeviceAdmission.Proofs.Json.Strings

/-!
# Devices named by their leaf certificates

The delegate of the common name reads the subject of one certificate, and in it one attribute.
`Name.First` says which one: the first common name that is readable text, whatever stands before and
behind it. `Vouches` puts this together with the leaf, and `Declines` lists the other ends.

* `commonName?_eq_some_iff`: the search through a subject finds the first readable common name.
* `judge_eq_ok_iff`, `judge_eq_error_iff`: whom the delegate accepts and turns away.
* `only_the_leaf_vouches`: so neither this delegate nor a register of pins looks at anything else.
-/
namespace DeviceAdmission

open Json (octetsOf fromUTF8?_eq_some_iff)

/-! ## Common names -/

namespace Certificate

/-- The attribute is a common name, and its value a string with the octets of a text. The tags are
those of UTF-8, numeric, printable and IA5 strings. -/
structure Attribute.Names (a : Attribute) (text : String) : Prop where
  type : a.type = [0x55, 0x04, 0x03]
  string : a.value.header.tag ∈ [12, 18, 19, 22]
  octets : a.value.content = octetsOf text

/-- The first common name of a subject that is readable text; the attributes before it are none. -/
def Name.First (subject : Name) (text : String) : Prop :=
  ∃ before a after, subject.flatten = before ++ a :: after ∧ a.Names text ∧
    ∀ b ∈ before, ∀ other, ¬ b.Names other

theorem Attribute.names_iff (a : Attribute) (text : String) : a.Names text ↔
    (if a.type == Name.commonNameType && Name.commonNameTags.contains a.value.header.tag then
      Name.utf8? a.value.content else none) = some text := by
  have tags : Name.commonNameTags.contains a.value.header.tag = true ↔
      a.value.header.tag ∈ [12, 18, 19, 22] := by
    simp only [Name.commonNameTags, List.contains_iff_mem, List.mem_cons, List.not_mem_nil, or_false]
    omega
  have type : (a.type == Name.commonNameType) = true ↔ a.type = [0x55, 0x04, 0x03] := beq_iff_eq
  rw [Option.ite_none_right_eq_some, Bool.and_eq_true, tags, type, Name.utf8?,
    fromUTF8?_eq_some_iff]
  constructor
  · rintro ⟨type, string, octets⟩
    exact ⟨⟨type, string⟩, octets⟩
  · rintro ⟨⟨type, string⟩, octets⟩
    exact ⟨type, string, octets⟩

/-- The search through a subject finds the first readable common name. -/
theorem Name.commonName?_eq_some_iff (subject : Name) (text : String) :
    subject.commonName? = some text ↔ subject.First text := by
  unfold commonName? First
  simp only [List.findSome?_eq_some_iff, Attribute.names_iff, ← Option.eq_none_iff_forall_ne_some]

/-- Subjects have one first common name at most. -/
theorem Name.First.unique {subject : Name} {text other : String} (first : subject.First text)
    (also : subject.First other) : text = other := by
  rw [← commonName?_eq_some_iff] at first also
  exact Option.some.inj (first.symm.trans also)

end Certificate

/-! ## Verdicts -/

namespace Delegate.CommonName

/-- The leaf of the chain is a certificate that names the claimed device. -/
structure Vouches (input : Input) (leaf : Certificate) : Prop where
  presented : input.chain.leaf? = some leaf
  named : ∃ contents, leaf.contents = .ok contents ∧ contents.subject.First input.deviceId

/-- What is said of an accepted caller. -/
def named (input : Input) (leaf : Certificate) : Identity :=
  ⟨input.deviceId, input.method,
    [("fingerprint", .text (Text.Hex.encode (Digest.Sha256.digest leaf.der))),
      ("subject_cn", .text input.deviceId)]⟩

/-- Why a caller is turned away, and what it is told. -/
inductive Declines (input : Input) : Failure → Prop where
  | leafless (bare : input.chain.leaf? = none) :
      Declines input (.unauthenticated "no leaf certificate")
  /-- The leaf is no certificate. -/
  | malformed {leaf : Certificate} {defect : Certificate.Defect}
      (presented : input.chain.leaf? = some leaf) (broken : leaf.contents = .error defect) :
      Declines input (.unauthenticated defect.message)
  | nameless {leaf : Certificate} {contents : Certificate.Contents}
      (presented : input.chain.leaf? = some leaf) (read : leaf.contents = .ok contents)
      (nameless : ∀ name, ¬ contents.subject.First name) :
      Declines input (.unauthenticated "leaf certificate has no subject common name")
  /-- The leaf names another device first. -/
  | other {leaf : Certificate} {contents : Certificate.Contents} {name : String}
      (presented : input.chain.leaf? = some leaf) (read : leaf.contents = .ok contents)
      (first : contents.subject.First name) (other : name ≠ input.deviceId) :
      Declines input (.unauthenticated "certificate subject does not match device id")

section

variable {input : Input} {leaf : Certificate} {contents : Certificate.Contents} {name : String}

theorem commonName?_of_contents (read : leaf.contents = .ok contents) :
    leaf.commonName? = .ok contents.subject.commonName? := by
  rw [Certificate.commonName?, read]
  rfl

theorem judge_of_vouches (vouches : Vouches input leaf) :
    judge input = .ok (named input leaf) := by
  obtain ⟨presented, contents, read, first⟩ := vouches
  rw [← Certificate.Name.commonName?_eq_some_iff] at first
  simp only [judge, presented, commonName?_of_contents read, first, bne_self_eq_false,
    Bool.false_eq_true, if_false]
  rfl

theorem judge_of_declines {f : Failure} (declines : Declines input f) :
    judge input = .error f := by
  cases declines with
  | leafless bare => simp only [judge, bare]
  | malformed presented broken =>
    simp only [judge, presented, Certificate.commonName?, broken, Except.map]
  | nameless presented read nameless =>
    have none : ∀ subject : Certificate.Name, (∀ name, ¬ subject.First name) →
        subject.commonName? = none := by
      intro subject nameless
      rw [Option.eq_none_iff_forall_ne_some]
      intro name found
      exact nameless name ((Certificate.Name.commonName?_eq_some_iff _ _).1 found)
    simp only [judge, presented, commonName?_of_contents read, none _ nameless]
  | other presented read first other =>
    rw [← Certificate.Name.commonName?_eq_some_iff] at first
    have differs : (_ != input.deviceId) = true := bne_iff_ne.2 other
    simp only [judge, presented, commonName?_of_contents read, first, differs, if_true]

/-- Some leaf vouches for the caller, or there is a reason to turn it away. -/
theorem vouches_or_declines (input : Input) :
    (∃ leaf, Vouches input leaf) ∨ ∃ f, Declines input f := by
  cases presented : input.chain.leaf? with
  | none => exact .inr ⟨_, .leafless presented⟩
  | some leaf =>
    cases read : leaf.contents with
    | error defect => exact .inr ⟨_, .malformed presented read⟩
    | ok contents =>
      by_cases named : ∃ name, contents.subject.First name
      · obtain ⟨name, first⟩ := named
        by_cases same : name = input.deviceId
        · subst same
          exact .inl ⟨leaf, presented, contents, read, first⟩
        · exact .inr ⟨_, .other presented read first same⟩
      · exact .inr ⟨_, .nameless presented read fun name first => named ⟨name, first⟩⟩

theorem judge_eq_ok_iff (input : Input) (identity : Identity) :
    judge input = .ok identity ↔ ∃ leaf, Vouches input leaf ∧ identity = named input leaf := by
  constructor
  · intro accepted
    rcases vouches_or_declines input with ⟨leaf, vouches⟩ | ⟨f, declines⟩
    · rw [judge_of_vouches vouches] at accepted
      exact ⟨leaf, vouches, (Except.ok.inj accepted).symm⟩
    · rw [judge_of_declines declines] at accepted
      cases accepted
  · rintro ⟨leaf, vouches, rfl⟩
    exact judge_of_vouches vouches

theorem judge_eq_error_iff (input : Input) (f : Failure) :
    judge input = .error f ↔ Declines input f := by
  constructor
  · intro refused
    rcases vouches_or_declines input with ⟨leaf, vouches⟩ | ⟨g, declines⟩
    · rw [judge_of_vouches vouches] at refused
      cases refused
    · rw [judge_of_declines declines] at refused
      cases refused
      exact declines
  · exact judge_of_declines

theorem Declines.unauthenticated {f : Failure} (declines : Declines input f) :
    ∃ message, f = .unauthenticated message := by
  cases declines <;> exact ⟨_, rfl⟩

/-- Of a chain only the leaf matters. -/
theorem judge_congr {other : Input} (deviceId : input.deviceId = other.deviceId)
    (method : input.method = other.method) (leaf : input.chain.leaf? = other.chain.leaf?) :
    judge input = judge other := by
  simp only [judge, deviceId, method, leaf]

/-- Of a leaf only its first common name matters for whether it vouches. -/
theorem vouches_iff (presented : input.chain.leaf? = some leaf)
    (read : leaf.contents = .ok contents) :
    Vouches input leaf ↔ contents.subject.First input.deviceId := by
  constructor
  · rintro ⟨-, found, same, first⟩
    rw [read] at same
    cases same
    exact first
  · exact fun first => ⟨presented, contents, read, first⟩

theorem accepts_iff (presented : input.chain.leaf? = some leaf) :
    (∃ identity, judge input = .ok identity) ↔ Vouches input leaf := by
  constructor
  · rintro ⟨identity, accepted⟩
    obtain ⟨found, vouches, -⟩ := (judge_eq_ok_iff _ _).1 accepted
    have same := vouches.presented
    rw [presented] at same
    cases same
    exact vouches
  · exact fun vouches => ⟨_, judge_of_vouches vouches⟩

end

end Delegate.CommonName

open Delegate (Input PinRegistry)
open Delegate.CommonName (Vouches Declines named judge)

/-- Whom the two delegates accept depends on the claimed device and the leaf alone. -/
structure OnlyTheLeafVouches : Prop where
  /-- The delegate of the common name accepts a caller whose leaf is a certificate with the claimed
  id as its first readable common name, and names both in what it says of the caller. -/
  accepts : ∀ (input : Input) (identity : Identity),
    judge input = .ok identity ↔ ∃ leaf, Vouches input leaf ∧ identity = named input leaf
  /-- Every other caller is not authenticated. -/
  refuses : ∀ input : Input, (¬ ∃ leaf, Vouches input leaf) →
    ∃ message, judge input = .error (.unauthenticated message)
  reasons : ∀ (input : Input) (f : Failure), judge input = .error f ↔ Declines input f
  /-- The rest of the chain does not change its answer. -/
  leaf : ∀ input other : Input, input.deviceId = other.deviceId → input.method = other.method →
    input.chain.leaf? = other.chain.leaf? →
    Delegate.CommonName.delegate input = Delegate.CommonName.delegate other
  /-- Nor does it change the answer of a register of pins, of which the entry for the claimed device
  is all that counts. -/
  pinned : ∀ (r s : PinRegistry) (input other : Input),
    r.find? input.deviceId = s.find? other.deviceId → input.deviceId = other.deviceId →
    input.method = other.method → input.chain.leaf? = other.chain.leaf? →
    r.delegate input = s.delegate other
  /-- Of the leaf the first readable common name decides: certificates that share it, or have none,
  are accepted for the same devices, whatever else they and the callers say. -/
  firstName : ∀ (input other : Input) (leaf leaf' : Certificate)
      (contents contents' : Certificate.Contents), input.deviceId = other.deviceId →
    input.chain.leaf? = some leaf → other.chain.leaf? = some leaf' →
    leaf.contents = .ok contents → leaf'.contents = .ok contents' →
    (∀ name, contents.subject.First name ↔ contents'.subject.First name) →
    ((∃ identity, judge input = .ok identity) ↔ ∃ identity, judge other = .ok identity)

theorem only_the_leaf_vouches : OnlyTheLeafVouches where
  accepts := Delegate.CommonName.judge_eq_ok_iff
  refuses input unvouched := by
    obtain ⟨f, declines⟩ := (Delegate.CommonName.vouches_or_declines input).resolve_left unvouched
    obtain ⟨message, rfl⟩ := declines.unauthenticated
    exact ⟨message, Delegate.CommonName.judge_of_declines declines⟩
  reasons := Delegate.CommonName.judge_eq_error_iff
  leaf input other deviceId method leaf := by
    unfold Delegate.CommonName.delegate
    rw [Delegate.CommonName.judge_congr deviceId method leaf]
  pinned r s input other entry deviceId method leaf := by
    unfold PinRegistry.delegate
    rw [PinRegistry.judge_congr_leaf entry deviceId method leaf]
  firstName input other leaf leaf' contents contents' deviceId presented presented' read read'
      names := by
    rw [Delegate.CommonName.accepts_iff presented, Delegate.CommonName.accepts_iff presented',
      Delegate.CommonName.vouches_iff presented read,
      Delegate.CommonName.vouches_iff presented' read', deviceId]
    exact names other.deviceId

/-- A certificate whose subject has a common name that is no text, a unit b, and the common names a
and c. -/
def unitCertificate : Certificate := ⟨
  [48, 115, 48, 104, 2, 1, 1, 48, 4, 6, 2, 42, 3, 48, 0, 48, 30, 23, 13, 50, 52, 48, 49, 48, 49,
    48, 48, 48, 48, 48, 48, 90, 23, 13, 51, 52, 48, 49, 48, 49, 48, 48, 48, 48, 48, 48, 90, 48, 48,
    49, 10, 48, 8, 6, 3, 85, 4, 3, 12, 1, 255, 49, 10, 48, 8, 6, 3, 85, 4, 11, 12, 1, 98, 49, 10,
    48, 8, 6, 3, 85, 4, 3, 12, 1, 97, 49, 10, 48, 8, 6, 3, 85, 4, 3, 12, 1, 99, 48, 9, 48, 4, 6, 2,
    42, 3, 3, 1, 0, 48, 4, 6, 2, 42, 3, 3, 1, 0]⟩

example : (judge ⟨"m", "a", [unitCertificate]⟩).isOk = true := rfl

example : (judge ⟨"m", "b", [unitCertificate]⟩).isOk = false := rfl

example : (judge ⟨"m", "c", [unitCertificate]⟩).isOk = false := rfl

end DeviceAdmission
