import DeviceAdmission.Delegate.Identity
import DeviceAdmission.Failure.Views
import DeviceAdmission.Message.Basic
import DeviceAdmission.Proofs.Wire.Accepted

/-!
# The wire forms of failures, identities and messages

Twelve records go over the wire: failures, established identities and the fleet messages. Each form
takes a value apart into what its shape describes, so for each it remains to see that its keys and
labels differ and that it puts the same value together again.

Failures and identities carry tables of any JSON, where reading back depends on the nesting and on how
fractions are rounded: that the text is read back as the same JSON value is assumed there, and
`Failure.readsBack` says when it holds anyway. Messages need no assumption.

* `decoding_undoes_encoding`: the round trips, and that only registered codes are accepted.
-/
namespace DeviceAdmission

open Json (IsMap ReadsBack)
open Wire (Form)

/-! ## Failures -/

namespace Failure

theorem form_lawful : form.Lawful where
  shape := by decide
  same f := by
    simp only [form, Wire.Labelled.ofIndex_toIndex]
    rfl

theorem settled_toCarrier {f : Failure} (registered : f.code.name ∈ Code.names)
    (map : IsMap f.notes) : form.shape.Settled (form.toCarrier f) :=
  ⟨registered, trivial, trivial, fun _ _ => trivial, trivial, trivial, trivial, trivial,
    fun _ same => Option.some_inj.1 same ▸ map, fun _ _ => trivial, trivial⟩

/-- A value that was read is settled when it is taken apart again: notes that were left out are
empty. -/
theorem settled_again (v : form.shape.Carrier) (settled : form.shape.Settled v) :
    form.shape.Settled (form.toCarrier (form.ofCarrier v)) := by
  obtain ⟨_, _, _, _, _, _, _, _, notes, _⟩ := v
  obtain ⟨registered, _, _, _, _, _, _, _, tables, _⟩ := settled
  refine settled_toCarrier registered ?_
  cases notes with
  | none => rfl
  | some notes => exact tables notes rfl

/-- Whole numbers in range, nested less deep than the limit, are read back whatever the rounding. -/
theorem readsBack {f : Failure} (inside : Json.MembersWithin 126 f.notes) :
    ReadsBack f.toJson := by
  refine Json.parse_render ⟨by decide, ?_⟩
  obtain ⟨code, kind, messageUser, messageDev, httpStatus, grpcStatus, retryable, severity, notes,
    correlationId⟩ := f
  have table : Json.Within 127 (.object notes) := ⟨by decide, inside⟩
  have status := Wire.Width.isExact .unsigned16 httpStatus
  have grpc := Wire.Width.isExact .signed32 grpcStatus
  -- the two optional texts are there or not
  cases messageDev <;> cases correlationId <;>
    simp only [form, fields, Wire.Fields.encode, Wire.Shape.encode, Json.MembersWithin,
      Json.Within, status, grpc, true_and, and_true] <;>
    exact table

end Failure

/-! ## Identities -/

namespace Identity

theorem form_lawful : form.Lawful where
  shape := by decide
  same _ := rfl

theorem settled_of_isMap {i : Identity} (map : IsMap i.claims) :
    form.shape.Settled (form.toCarrier i) :=
  ⟨trivial, trivial, fun _ same => Option.some_inj.1 same ▸ map, trivial⟩

theorem settled_again (v : form.shape.Carrier) (settled : form.shape.Settled v) :
    form.shape.Settled (form.toCarrier (form.ofCarrier v)) := by
  obtain ⟨_, _, claims, _⟩ := v
  refine settled_of_isMap ?_
  cases claims with
  | none => rfl
  | some claims =>
    obtain ⟨_, _, tables, _⟩ := settled
    exact tables claims rfl

theorem readsBack {i : Identity} (inside : Json.MembersWithin 126 i.claims) :
    ReadsBack i.toJson :=
  Json.parse_render ⟨by decide, trivial, trivial, ⟨by decide, inside⟩, trivial⟩

end Identity

/-! ## Messages -/

namespace Message.Kind

theorem form_lawful {k : Message.Kind} {form : Form k.Payload}
    (written : k.form? = some form) : form.Lawful ∧ form.shape.Bounded Json.depthLimit := by
  cases k with
  | enrollResponse =>
    obtain rfl := Option.some_inj.1 written
    refine ⟨⟨by decide, fun m => ?_⟩, by decide⟩
    simp only [EnrollResponse.form, Wire.Labelled.ofIndex_toIndex]
  | empty => cases written
  | foreign => cases written
  | _ =>
    obtain rfl := Option.some_inj.1 written
    exact ⟨⟨by decide, fun _ => rfl⟩, by decide⟩

theorem encode?_of_form {k : Message.Kind} {form : Form k.Payload} (known : k.form? = some form)
    (m : k.Payload) : k.encode? m = some (form.encode m) := by
  cases k with
  | empty => cases known
  | _ => simp only [encode?, known, Option.map_some]

/-- A message is read from what it is written as. -/
theorem parse_encode {k : Message.Kind} {form : Form k.Payload} (known : k.form? = some form)
    (m : k.Payload) : ∃ json, k.encode? m = some json ∧ form.parse json.render = .ok m := by
  obtain ⟨lawful, bounded⟩ := form_lawful known
  exact ⟨_, encode?_of_form known m, Form.parse_encode_of_bounded lawful bounded m⟩

end Message.Kind

/-! ## The code that a document names -/

open Json (Node Source)

/-- The text that a node holds. -/
def textOf : Node → Option String
  | .text (.ok s) _ _ => some s
  | _ => none

/-- The code that a document names: at the first member of that key in an object, or as the first
item of a list. -/
def namedCode (document : String) : Option String :=
  match ((Source.ofString document).nodeAt 0).1 with
  | .object _ members => (Wire.nodeOf "code" members).bind textOf
  | .array _ (.item first _ _) => textOf first
  | _ => none

theorem Failure.namedCode_of_parse {document : String} {f : Failure}
    (accepted : Failure.parse document = .ok f) :
    namedCode document = some f.code.name ∧ f.code.name ∈ Code.names := by
  obtain ⟨v, taken, rfl⟩ := Json.exists_of_map accepted
  have read := Wire.Shape.read_of_parse taken
  unfold namedCode
  rcases Wire.Shape.read_first read with ⟨start, tree, first, same, found, own⟩ |
    ⟨start, first, stop, items, same, own⟩
  · obtain ⟨_, _, rfl, member⟩ := Wire.text_of_registered own
    rw [same]
    simp only [found, Option.bind_some, textOf]
    exact ⟨rfl, member⟩
  · obtain ⟨_, _, rfl, member⟩ := Wire.text_of_registered own
    rw [same]
    exact ⟨rfl, member⟩

/-- Decoding undoes encoding, and a failure is accepted only with a registered code. -/
structure DecodingUndoesEncoding : Prop where
  /-- A failure with a registered code, and with any notes whose JSON is read back. -/
  failures : ∀ f : Failure, f.code.name ∈ Failure.Code.names → IsMap f.notes →
    ReadsBack f.toJson → Failure.parse f.toJson.render = .ok f
  /-- An established identity, with any claims whose JSON is read back. -/
  identities : ∀ i : Identity, IsMap i.claims → ReadsBack i.toJson →
    Identity.parse i.toJson.render = .ok i
  /-- Nothing is assumed of notes and claims with whole numbers only, nested less deep than the
  limit. -/
  plainFailures : ∀ f : Failure, f.code.name ∈ Failure.Code.names → IsMap f.notes →
    Json.MembersWithin 126 f.notes → Failure.parse f.toJson.render = .ok f
  plainIdentities : ∀ i : Identity, IsMap i.claims → Json.MembersWithin 126 i.claims →
    Identity.parse i.toJson.render = .ok i
  /-- A message of any kind that has a wire form. -/
  messages : ∀ (k : Message.Kind) (form : Form k.Payload), k.form? = some form →
    ∀ m : k.Payload, ∃ json, k.encode? m = some json ∧ form.parse json.render = .ok m
  /-- What was read from any document is read again from what it is written as. -/
  failuresAgain : ∀ document f, Failure.parse document = .ok f → ReadsBack f.toJson →
    Failure.parse f.toJson.render = .ok f
  identitiesAgain : ∀ document i, Identity.parse document = .ok i → ReadsBack i.toJson →
    Identity.parse i.toJson.render = .ok i
  messagesAgain : ∀ (k : Message.Kind) (form : Form k.Payload), k.form? = some form →
    ∀ document m, form.parse document = .ok m →
      ∃ json, k.encode? m = some json ∧ form.parse json.render = .ok m
  /-- An accepted document names a registered code, which is the code that was read. -/
  registered : ∀ document f, Failure.parse document = .ok f →
    namedCode document = some f.code.name ∧ f.code.name ∈ Failure.Code.names
  /-- And one that names another code is refused. -/
  unregistered : ∀ document code, namedCode document = some code → code ∉ Failure.Code.names →
    ∃ refusal, Failure.parse document = .error refusal

theorem decoding_undoes_encoding : DecodingUndoesEncoding where
  failures _ registered map back :=
    Form.parse_encode Failure.form_lawful (Failure.settled_toCarrier registered map) back
  identities _ map back :=
    Form.parse_encode Identity.form_lawful (Identity.settled_of_isMap map) back
  plainFailures _ registered map inside :=
    Form.parse_encode Failure.form_lawful (Failure.settled_toCarrier registered map)
      (Failure.readsBack inside)
  plainIdentities _ map inside :=
    Form.parse_encode Identity.form_lawful (Identity.settled_of_isMap map)
      (Identity.readsBack inside)
  messages _ _ written m := Message.Kind.parse_encode written m
  failuresAgain _ _ accepted back :=
    Form.parse_again Failure.form_lawful Failure.settled_again accepted back
  identitiesAgain _ _ accepted back :=
    Form.parse_again Identity.form_lawful Identity.settled_again accepted back
  messagesAgain _ _ written _ m _ := Message.Kind.parse_encode written m
  registered _ _ accepted := Failure.namedCode_of_parse accepted
  unregistered document code named other := by
    cases read : Failure.parse document with
    | error refusal => exact ⟨refusal, rfl⟩
    | ok f =>
      obtain ⟨same, member⟩ := Failure.namedCode_of_parse read
      exact absurd (Option.some_inj.1 (same.symm.trans named) ▸ member) other

end DeviceAdmission
