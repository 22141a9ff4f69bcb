import Mathlib.Data.Finset.Card
import DeviceAdmission.DeviceId.Registry
import DeviceAdmission.Proofs.Wire.Forms

/-!
# What a history of registrations leaves in the register

A register of requests is built by registrations, each of which replaces an earlier one for the
same kind of request. `IsLast` says which registration of a kind came last, in terms of the history
alone.

* `find?_register`: one registration changes what is found for its own kind, and for no other.
* `lookup_of_isLast`: so a message is read by the last registration of its kind, and reading it
  never fails.
* `lookup_of_unregistered`: a message of a kind without registrations is not read at all.
* `find?_ofHistory`: what is found for a kind depends on the registrations of this kind alone.
* `Distinct`: no kind has two entries. Registrations keep this, and it makes `size` the number of
  registered kinds (`size_ofHistory`).
* `carries_encodeJson`, `parse_of_encodeJson`: what a plain registration sends of its rejection carries
  the JSON that the rejection is written as, and a response of the fleet is read from it again.
* `last_registration_wins`: the register as a map from kinds to their last registrations.
-/
namespace DeviceAdmission.DeviceId

/-- A registration is the last one of its kind. -/
inductive IsLast (history : List Registration) (reg : Registration) : Prop where
  | intro {before after : List Registration} (split : history = before ++ reg :: after)
      (none : ∀ later ∈ after, later.field.request ≠ reg.field.request)

namespace Registry

theorem find?_register (registry : Registry) (field : Field) (k : Message.Kind) :
    (registry.register field).find? k =
      if field.request = k then some field else registry.find? k := by
  unfold find? register
  rw [List.find?_append, List.find?_filter]
  by_cases same : field.request = k
  · have gone : ∀ a ∈ registry.fields,
        ¬ decide ((a.request != field.request) = true ∧ (a.request == k) = true) = true := by
      intro a _
      simp [same]
    rw [List.find?_eq_none.2 gone, if_pos same]
    simp [same]
  · have kept : ∀ a : Field,
        decide ((a.request != field.request) = true ∧ (a.request == k) = true) =
          (a.request == k) := by
      intro a
      by_cases mine : a.request = k
      · simp [mine, Ne.symm same]
      · simp [mine]
    simp only [kept, if_neg same]
    simp [same]

theorem find?_foldl_of_none {registry : Registry} {fields : List Field} {k : Message.Kind}
    (none : ∀ field ∈ fields, field.request ≠ k) :
    (fields.foldl register registry).find? k = registry.find? k := by
  induction fields generalizing registry with
  | nil => rfl
  | cons field rest ih =>
    rw [List.foldl_cons, ih fun f member => none f (List.mem_cons_of_mem _ member),
      find?_register, if_neg (none field List.mem_cons_self)]

variable {history : List Registration} {reg : Registration}

theorem find?_of_isLast (last : IsLast history reg) :
    (ofHistory history).find? reg.field.request = some reg.field := by
  cases last with
  | @intro before after split none =>
    subst split
    have later : ∀ field ∈ after.map Registration.field, field.request ≠ reg.field.request := by
      simpa using none
    rw [ofHistory, List.map_append, List.map_cons, List.foldl_append, List.foldl_cons,
      find?_foldl_of_none later, find?_register, if_pos rfl]

/-- The entry of a kind can read every message of the kind. -/
theorem lookup_of_isLast (last : IsLast history reg) (payload : reg.field.request.Payload) :
    (ofHistory history).lookup ⟨reg.field.request, payload⟩ =
      some (reg.field, reg.field.extract payload) := by
  simp [lookup, find?_of_isLast last, Field.deviceId?, Message.as?]

theorem lookup_of_unregistered {message : Message}
    (none : ∀ reg ∈ history, reg.field.request ≠ message.kind) :
    (ofHistory history).lookup message = .none := by
  have fields : ∀ field ∈ history.map Registration.field, field.request ≠ message.kind := by
    simpa using none
  have nothing : (ofHistory history).find? message.kind = .none := by
    rw [ofHistory, find?_foldl_of_none fields]
    rfl
  simp [lookup, nothing]

/-- A kind of request has a last registration, or none at all. -/
theorem isLast_or_unregistered (history : List Registration) (k : Message.Kind) :
    (∃ reg, IsLast history reg ∧ reg.field.request = k) ∨
      ∀ reg ∈ history, reg.field.request ≠ k := by
  induction history with
  | nil => exact .inr (by simp)
  | cons first rest ih =>
    rcases ih with ⟨reg, ⟨split, none⟩, kind⟩ | none
    · exact .inl ⟨reg, ⟨by rw [split, List.cons_append], none⟩, kind⟩
    · by_cases mine : first.field.request = k
      · exact .inl ⟨first, ⟨(List.nil_append _).symm, by rwa [mine]⟩, mine⟩
      · refine .inr fun reg member => ?_
        rcases List.mem_cons.1 member with rfl | member
        · exact mine
        · exact none reg member

/-! ## Registrations of other kinds -/

/-- The registrations of one kind, in their order. -/
def own (history : List Registration) (k : Message.Kind) : List Registration :=
  history.filter (·.field.request == k)

theorem ofHistory_concat (history : List Registration) (reg : Registration) :
    ofHistory (history ++ [reg]) = (ofHistory history).register reg.field := by
  unfold ofHistory
  rw [List.map_append, List.foldl_append]
  rfl

theorem find?_ofHistory (history : List Registration) (k : Message.Kind) :
    (ofHistory history).find? k = (own history k).getLast?.map Registration.field := by
  -- A history grows at its end, and the newest registration is looked at first.
  induction history using List.reverseRecOn with
  | nil => rfl
  | append_singleton history reg ih =>
    rw [ofHistory_concat, find?_register, ih]
    unfold own
    by_cases mine : reg.field.request = k
    · simp [mine]
    · simp [mine]

theorem lookup_congr {first second : List Registration} {message : Message}
    (same : own first message.kind = own second message.kind) :
    (ofHistory first).lookup message = (ofHistory second).lookup message := by
  unfold lookup
  rw [find?_ofHistory, find?_ofHistory, same]

/-! ## Entries and their kinds -/

/-- What is found for a kind is an entry of that kind. -/
theorem request_of_find? {registry : Registry} {k : Message.Kind} {field : Field}
    (found : registry.find? k = some field) : field.request = k := by
  have kind := List.find?_some found
  exact eq_of_beq kind

/-- So the entry that is found for a message can read it. -/
theorem deviceId?_of_find? {registry : Registry} {message : Message} {field : Field}
    (found : registry.find? message.kind = some field) :
    ∃ id, field.deviceId? message = some id := by
  obtain ⟨k, payload⟩ := message
  have kind := request_of_find? found
  dsimp only at kind
  subst kind
  exact ⟨field.extract payload, by simp [Field.deviceId?, Message.as?]⟩

theorem deviceId?_of_ne {field : Field} {message : Message} (other : message.kind ≠ field.request) :
    field.deviceId? message = none := by
  unfold Field.deviceId? Message.as?
  rw [dif_neg other]
  rfl

theorem contains_eq_isSome_lookup (registry : Registry) (message : Message) :
    registry.contains message.kind = (registry.lookup message).isSome := by
  unfold contains lookup
  cases found : registry.find? message.kind with
  | none => rfl
  | some field =>
    obtain ⟨id, read⟩ := deviceId?_of_find? found
    simp [read]

theorem isSome_lookup_iff (history : List Registration) (message : Message) :
    ((ofHistory history).lookup message).isSome = true ↔
      ∃ reg ∈ history, reg.field.request = message.kind := by
  constructor
  · intro read
    rcases isLast_or_unregistered history message.kind with ⟨reg, ⟨split, -⟩, kind⟩ | none
    · exact ⟨reg, by simp [split], kind⟩
    · rw [lookup_of_unregistered none] at read
      cases read
  · rintro ⟨reg, member, kind⟩
    rcases isLast_or_unregistered history message.kind with ⟨final, last, same⟩ | none
    · obtain ⟨k, payload⟩ := message
      dsimp only at same
      subst same
      rw [lookup_of_isLast last payload]
      rfl
    · exact absurd kind (none reg member)

/-! ## What is sent of a rejection -/

end Registry

/-- Octets carry what a value is written as: the compact text of its JSON, which any reader takes for
that JSON again; or nothing, for a value that cannot be written. -/
inductive Carries : Option Json → List UInt8 → Prop where
  | written {json : Json} {text : String} (compact : text = json.render)
      (read : Json.Within Json.depthLimit json → Json.parse text = .ok json.canonical) :
      Carries (some json) text.toUTF8.data.toList
  | unwritten : Carries none []

theorem carries_encodeJson {α : Type} (write : α → Option Json) (value : α) :
    Carries (write value) (Field.encodeJson write value) := by
  unfold Field.encodeJson
  cases write value with
  | none => exact .unwritten
  | some json => exact .written rfl Json.parse_render

/-- A response of the fleet is read from what is sent of it. -/
theorem parse_of_encodeJson {k : Message.Kind} {form : Wire.Form k.Payload}
    (known : k.form? = some form) (m : k.Payload) :
    ∃ text, form.parse text = .ok m ∧
      Field.encodeJson k.encode? m = text.toUTF8.data.toList := by
  obtain ⟨json, written, read⟩ := Message.Kind.parse_encode known m
  exact ⟨json.render, read, by rw [Field.encodeJson, written]⟩

/-- A response of another service: an object that says no. -/
example :
    (Registration.plain "/test.v1.Svc/Ping" (.foreign "Ping") (fun _ => "edge-007")
      (.foreign "Pong") ([] : List UInt8)
      fun _ => some (.object [("ok", .bool false)])).field.rejectionDetails =
        "\x7b\"ok\":false\x7d".toUTF8.data.toList := by
  decide +kernel

namespace Registry

/-! ## One entry a kind -/

/-- No kind has two entries. -/
def Distinct (registry : Registry) : Prop := (registry.fields.map (·.request)).Nodup

/-- The kinds that have an entry. -/
def kinds (registry : Registry) : Finset Message.Kind :=
  (registry.fields.map (·.request)).toFinset

theorem Distinct.register {registry : Registry} (distinct : registry.Distinct) (field : Field) :
    (registry.register field).Distinct := by
  have kept : ((registry.fields.filter (·.request != field.request)).map (·.request)).Nodup :=
    distinct.sublist (List.filter_sublist.map _)
  unfold Distinct Registry.register
  rw [List.map_append, List.map_singleton]
  apply kept.append (List.nodup_singleton _)
  simp

theorem mem_kinds_iff (registry : Registry) (k : Message.Kind) :
    k ∈ registry.kinds ↔ (registry.find? k).isSome = true := by
  unfold kinds find?
  simp

theorem kinds_register (registry : Registry) (field : Field) :
    (registry.register field).kinds = insert field.request registry.kinds := by
  ext k
  rw [mem_kinds_iff, find?_register, Finset.mem_insert, mem_kinds_iff]
  by_cases mine : field.request = k
  · simp [mine]
  · simp [mine, Ne.symm mine]

theorem Distinct.size_eq_card {registry : Registry} (distinct : registry.Distinct) :
    registry.size = registry.kinds.card := by
  rw [kinds, List.toFinset_card_of_nodup distinct, List.length_map, size]

theorem distinct_ofHistory (history : List Registration) : (ofHistory history).Distinct := by
  induction history using List.reverseRecOn with
  | nil => exact List.nodup_nil
  | append_singleton history reg ih =>
    rw [ofHistory_concat]
    exact ih.register reg.field

theorem kinds_ofHistory (history : List Registration) :
    (ofHistory history).kinds = (history.map (·.field.request)).toFinset := by
  induction history using List.reverseRecOn with
  | nil => rfl
  | append_singleton history reg ih =>
    rw [ofHistory_concat, kinds_register, ih]
    ext k
    simp

theorem size_ofHistory (history : List Registration) :
    (ofHistory history).size = (history.map (·.field.request)).toFinset.card := by
  rw [(distinct_ofHistory history).size_eq_card, kinds_ofHistory]

end Registry

open Registry

/-- The register is a map from kinds of requests to their last registrations. -/
structure LastRegistrationWins (history : List Registration) : Prop where
  /-- A message is read exactly if its kind was registered at all. -/
  reads : ∀ message, ((ofHistory history).lookup message).isSome = true ↔
    ∃ reg ∈ history, reg.field.request = message.kind
  /-- An entry that is found for a message never fails to read it. -/
  fits : ∀ message field, (ofHistory history).find? message.kind = some field →
    ∃ id, field.deviceId? message = some id
  /-- It is read by the last registration of its kind: the entry has the method and the rejection of
  that registration, and the id is the one that it takes from the message. A plain registration
  sends the JSON that its rejection is written as, -/
  lastPlain : ∀ rpc request extract response rejected write,
    IsLast history (.plain rpc request extract response rejected write) →
    ∀ payload : request.Payload, ∃ field,
      (ofHistory history).lookup ⟨request, payload⟩ = some (field, extract payload) ∧
      field.rpc = rpc ∧ field.rejection = ⟨response, rejected⟩ ∧
      Carries (write rejected) field.rejectionDetails
  /-- of which a response of the fleet is read again. -/
  lastFleet : ∀ rpc request extract response (form : Wire.Form response.Payload) rejected,
    response.form? = some form →
    IsLast history (.plain rpc request extract response rejected response.encode?) →
    ∀ payload : request.Payload, ∃ field text,
      (ofHistory history).lookup ⟨request, payload⟩ = some (field, extract payload) ∧
      field.rejectionDetails = text.toUTF8.data.toList ∧ form.parse text = .ok rejected
  /-- Another one sends what its own encoding makes of it. -/
  lastEncoded : ∀ entry, IsLast history (.encoded entry) → ∀ payload : entry.request.Payload,
    ∃ field, (ofHistory history).lookup ⟨entry.request, payload⟩ =
        some (field, entry.extract payload) ∧
      field.rpc = entry.rpc ∧ field.rejection = ⟨entry.response, entry.rejected⟩ ∧
      field.rejectionDetails = entry.encode entry.rejected
  /-- Registrations of other kinds, before it or after it, change nothing. -/
  untouched : ∀ other message, own history message.kind = own other message.kind →
    (ofHistory history).lookup message = (ofHistory other).lookup message
  contains : ∀ message, (ofHistory history).contains message.kind =
    ((ofHistory history).lookup message).isSome
  /-- There are as many entries as kinds that were registered. -/
  size : (ofHistory history).size = (history.map (·.field.request)).toFinset.card
  rpcs : (ofHistory history).rpcs.length = (history.map (·.field.request)).toFinset.card
  /-- No entry reads a message of another kind than its own. -/
  foreign : ∀ (field : Field) message, message.kind ≠ field.request →
    field.deviceId? message = none

theorem last_registration_wins (history : List Registration) : LastRegistrationWins history where
  reads := isSome_lookup_iff history
  fits _ _ found := deviceId?_of_find? found
  lastPlain _ _ _ _ _ _ last payload :=
    ⟨_, lookup_of_isLast last payload, rfl, rfl, carries_encodeJson ..⟩
  lastFleet _ _ _ _ _ rejected known last payload := by
    obtain ⟨text, read, sent⟩ := parse_of_encodeJson known rejected
    exact ⟨_, text, lookup_of_isLast last payload, sent, read⟩
  lastEncoded _ last payload := ⟨_, lookup_of_isLast last payload, rfl, rfl, rfl⟩
  untouched _ _ same := lookup_congr same
  contains := contains_eq_isSome_lookup (ofHistory history)
  size := size_ofHistory history
  rpcs := by
    unfold Registry.rpcs
    rw [List.length_map]
    exact size_ofHistory history
  foreign _ _ other := deviceId?_of_ne other

end DeviceAdmission.DeviceId
