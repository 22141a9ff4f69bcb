import Mathlib.Data.List.Forall2
import DeviceAdmission.Call.Grpc
import DeviceAdmission.Gate.Chain

/-!
# One call over two transports

A call comes to the gate as a gRPC request, whose headers are octets under lower-case keys, or held
in memory, as a list of texts whose keys are compared without regard to case. Three places read the
headers, each in its own way: the metadata of a call in memory, the metadata of a request, and the
context that a request brings. `Carries` says when the two hold the same call, and `Worded` what
becomes of a header's octets in memory.

* `Grpc.Request.held_carries`: every request without binary keys is carried by a call in memory.
* `MemoryCall.Carries.metadata_eq`: the values of every key are the same, in their order, also where
  some of them are not readable.
* `run_congr`: the stages of the gate do the same with calls that look alike, and so does every
  chain of them.
* `requestId_forCall`, `requestId_context`: the three readers choose the request id from the same
  value.
* `transports_agree`: all of this about a request and a call in memory that carries it.
-/
namespace DeviceAdmission

open Call (Context Instant sameIgnoringCase)

/-! ## Header values as texts -/

namespace Grpc

/-- An octet that a header's text may have: printable ASCII, or a tab. -/
def Printable (b : UInt8) : Prop := b = 9 ∨ 0x20 ≤ b ∧ b ≤ 0x7E

instance (b : UInt8) : Decidable (Printable b) :=
  inferInstanceAs (Decidable (b = 9 ∨ 0x20 ≤ b ∧ b ≤ 0x7E))

/-- The text that stands for a header value in memory. -/
inductive Worded (octets : List UInt8) : String → Prop where
  /-- One character an octet. -/
  | readable {text : String} (printable : ∀ b ∈ octets, Printable b)
      (chars : text.toList.map Char.toNat = octets.map UInt8.toNat) : Worded octets text
  /-- Nothing of a value that is no text, but the value keeps its place. -/
  | unreadable {b : UInt8} (member : b ∈ octets) (foreign : ¬ Printable b) : Worded octets ""

theorem isReadable_iff (octets : List UInt8) :
    isReadable octets = true ↔ ∀ b ∈ octets, Printable b := by
  have bound : ∀ b : UInt8, b < 127 ↔ b ≤ 0x7E := by
    intro b
    rw [UInt8.lt_iff_toNat_lt, UInt8.le_iff_toNat_le]
    exact Nat.lt_succ_iff
  simp [isReadable, Printable, bound]

theorem toNat_ofNat_octet (b : UInt8) : (Char.ofNat b.toNat).toNat = b.toNat := by
  have valid : b.toNat.isValidChar := .inl (Nat.lt_trans b.toNat_lt (by decide))
  rw [Char.ofNat, dif_pos valid]
  rfl

/-- The wording is what the reader of a request makes of the value. -/
theorem Worded.eq_getD {octets : List UInt8} {text : String} (worded : Worded octets text) :
    text = (text? octets).getD "" := by
  cases worded with
  | readable printable chars =>
    have same : text.toList = octets.map fun b => Char.ofNat b.toNat := by
      apply List.map_injective_iff.2 (fun c d => Char.toNat_inj.1)
      rw [chars, List.map_map]
      exact List.map_congr_left fun b _ => (toNat_ofNat_octet b).symm
    rw [text?, if_pos ((isReadable_iff octets).2 printable), ← same, String.ofList_toList]
    rfl
  | unreadable member foreign =>
    have odd : ¬ isReadable octets = true := fun readable =>
      foreign ((isReadable_iff octets).1 readable _ member)
    rw [text?, if_neg odd]
    rfl

/-- Every value has a wording. -/
theorem worded_getD (octets : List UInt8) : Worded octets ((text? octets).getD "") := by
  by_cases printable : ∀ b ∈ octets, Printable b
  · rw [text?, if_pos ((isReadable_iff octets).2 printable)]
    refine .readable printable ?_
    simp [Function.comp_def, toNat_ofNat_octet]
  · rw [text?, if_neg (mt (isReadable_iff octets).1 printable)]
    push Not at printable
    obtain ⟨b, member, foreign⟩ := printable
    exact .unreadable member foreign

/-! ## Keys -/

/-- A key as headers are stored: in lower case, and not of a binary value. -/
structure PlainKey (key : String) : Prop where
  lower : key.toLower = key
  text : key.endsWith "-bin" = false

theorem endsWith_iff (key ending : String) :
    key.endsWith ending = true ↔ ending.toList <:+ key.toList := by
  rw [String.endsWith_eq_endsWith_toSlice, String.Slice.endsWith_string_iff]
  simp

/-- The ending of binary keys stays when a key is put into lower case. -/
theorem endsWith_toLower {key : String} (binary : key.endsWith "-bin" = true) :
    key.toLower.endsWith "-bin" = true := by
  have lowered : key.toLower.toList = key.toList.map Char.toLower := String.toList_map
  rw [endsWith_iff] at binary ⊢
  rw [lowered]
  exact binary.map Char.toLower

/-- No plain key is asked for by the name of a binary one. -/
theorem PlainKey.ne_of_binary {name key : String} (plain : PlainKey name)
    (binary : key.endsWith "-bin" = true) : name ≠ key.toLower := by
  rintro rfl
  have text := plain.text
  rw [endsWith_toLower binary] at text
  cases text

/-- Among plain keys a request is searched without regard to binary values. -/
theorem Request.values_eq {r : Request} (plain : ∀ h ∈ r.headers, PlainKey h.1) (key : String) :
    r.values key = (r.headers.filter fun h => h.1 == key.toLower).map (·.2) := by
  unfold Request.values
  split
  case isFalse => rfl
  case isTrue binary =>
    have none : (r.headers.filter fun h => h.1 == key.toLower) = [] := by
      rw [List.filter_eq_nil_iff]
      intro h member
      simpa using (plain h member).ne_of_binary binary
    rw [none, List.map_nil]

/-- The first text of a plain key is that of the first header with the key. -/
theorem PlainKey.firstText?_eq {key : String} (plain : PlainKey key) (r : Request) :
    r.firstText? key = (r.headers.find? fun h => h.1 == key).bind fun h => text? h.2 := by
  have named : ¬ key.endsWith "-bin" = true := by
    rw [plain.text]
    exact Bool.false_ne_true
  rw [Request.firstText?, Request.values, if_neg named, plain.lower, List.head?_map,
    List.head?_filter]
  cases r.headers.find? fun h => h.1 == key <;> rfl

/-- A request brings its context an id and a deadline, and nothing else. -/
theorem Request.context_eq (request : Request) (fresh : String) (now : Instant) :
    request.context fresh now =
      { requestId := Context.chooseId fresh (request.firstText? Call.requestIdKey)
        deadline := ((request.firstText? timeoutKey).bind Call.Timeout.parse?).map (now + ·) } := by
  unfold Request.context
  cases (request.firstText? timeoutKey).bind Call.Timeout.parse? <;> rfl

end Grpc

open Grpc (PlainKey Worded)

/-! ## The same call -/

/-- A call in memory carries a gRPC request to a method. No chain and an empty one count the same:
a session without certificates has none to show. -/
structure MemoryCall.Carries (held : MemoryCall) (request : Grpc.Request) (method : String) :
    Prop where
  method : held.method = method
  message : held.message = request.message
  peer : held.peer.getD [] = request.peer.getD []
  plain : ∀ h ∈ request.headers, PlainKey h.1
  entries : List.Forall₂ (fun entry h => entry.1 = h.1 ∧ Worded h.2 entry.2) held.entries
    request.headers

/-- A request as it is held in memory. -/
def Grpc.Request.held (request : Grpc.Request) (method : String) : MemoryCall where
  method := method
  entries := request.headers.map fun h => (h.1, (Grpc.text? h.2).getD "")
  peer := request.peer
  message := request.message

/-- Every request without binary keys can be held in memory. -/
theorem Grpc.Request.held_carries {request : Grpc.Request}
    (plain : ∀ h ∈ request.headers, PlainKey h.1) (method : String) :
    (request.held method).Carries request method where
  method := rfl
  message := rfl
  peer := rfl
  plain := plain
  entries := by
    rw [held, List.forall₂_map_left_iff, List.forall₂_same]
    exact fun h _ => ⟨rfl, Grpc.worded_getD h.2⟩

/-- Two calls look the same to the gate. -/
structure Call.Alike (a b : Call) : Prop where
  method : a.method = b.method
  metadata : ∀ key, a.metadata key = b.metadata key
  peer : a.peer.getD [] = b.peer.getD []
  message : a.message = b.message

/-- Keys that are found without regard to case are found in lower case. -/
theorem filter_entries_eq {entries : List (String × String)}
    {headers : List (String × List UInt8)} (plain : ∀ h ∈ headers, PlainKey h.1)
    (carried : List.Forall₂ (fun entry h => entry.1 = h.1 ∧ Worded h.2 entry.2) entries headers)
    (key : String) :
    (entries.filter fun e => sameIgnoringCase e.1 key).map (·.2) =
      (headers.filter fun h => h.1 == key.toLower).map fun h => (Grpc.text? h.2).getD "" := by
  induction carried with
  | nil => rfl
  | @cons entry h entries headers same _ ih =>
    have found : sameIgnoringCase entry.1 key = (h.1 == key.toLower) := by
      rw [sameIgnoringCase, same.1, (plain h (by simp)).lower]
    have rest := ih fun other member => plain other (by simp [member])
    by_cases named : h.1 = key.toLower
    · simp [found, named, rest, same.2.eq_getD]
    · simp [found, named, rest]

namespace MemoryCall.Carries

variable {held : MemoryCall} {request : Grpc.Request} {method : String}

theorem metadata_eq_texts (carries : held.Carries request method) (key : String) :
    held.view.metadata key = (request.headers.filter fun h => h.1 == key.toLower).map fun h =>
      (Grpc.text? h.2).getD "" :=
  filter_entries_eq carries.plain carries.entries key

theorem metadata_worded (carries : held.Carries request method) (key : String) :
    List.Forall₂ (fun text h => Worded h.2 text) (held.view.metadata key)
      (request.headers.filter fun h => h.1 == key.toLower) := by
  rw [carries.metadata_eq_texts, List.forall₂_map_left_iff, List.forall₂_same]
  exact fun h _ => Grpc.worded_getD h.2

theorem metadata_eq (carries : held.Carries request method) (key : String) :
    held.view.metadata key = (request.call method).metadata key := by
  simp only [carries.metadata_eq_texts, Grpc.Request.call]
  rw [Grpc.Request.values_eq carries.plain, List.map_map]
  rfl

theorem alike (carries : held.Carries request method) :
    held.view.Alike (request.call method) where
  method := carries.method
  metadata := carries.metadata_eq
  peer := carries.peer
  message := carries.message

end MemoryCall.Carries

/-! ## What the gate makes of calls that look alike -/

namespace Gate

/-- A stage of the gate's own kinds. -/
inductive BuiltIn : Stage → Prop where
  | formatCheck (registry : DeviceId.Registry) (policy : DeviceId.Policy) :
      BuiltIn (FormatCheck.stage registry policy)
  | authentication (delegate : Delegate) (detail : DenialDetail) :
      BuiltIn (Authentication.stage delegate detail)

/-- The chain that is presented, if any certificate is. -/
theorem peerChain_eq (call : Call) : peerChain call = match call.peer.getD [] with
    | [] => .error ((Refusal.permissionDenied "missing peer certificates").withNote "reason"
        (.text "missing_peer_certificate"))
    | leaf :: rest => .ok (leaf :: rest) := by
  unfold peerChain
  rcases call.peer with _ | _ | ⟨leaf, rest⟩ <;> rfl

section

variable {a b : Call} {chain : Chain}

theorem peerChain_congr (alike : a.Alike b) : peerChain a = peerChain b := by
  rw [peerChain_eq, peerChain_eq, alike.peer]

theorem claimedId_congr (alike : a.Alike b) : claimedId a = claimedId b := by
  rw [claimedId, claimedId, alike.metadata]

theorem input_congr (alike : a.Alike b) : Authentication.input a = Authentication.input b := by
  rw [Authentication.input, Authentication.input, peerChain_congr alike, claimedId_congr alike,
    alike.method]

theorem BuiltIn.handle_congr {stage : Stage} (own : BuiltIn stage) (alike : a.Alike b)
    (cx : Context) (now : Instant) : stage.handle cx a now = stage.handle cx b now := by
  cases own with
  | formatCheck registry policy => simp only [FormatCheck.stage, alike.message]
  | authentication delegate detail => simp only [Authentication.stage, input_congr alike]

/-- What every stage does alike, a chain does alike. -/
theorem run_congr (own : ∀ stage ∈ chain, BuiltIn stage) (alike : a.Alike b) (cx : Context)
    (now : Instant) : chain.run cx a now = chain.run cx b now := by
  induction chain generalizing cx now with
  | nil => rfl
  | cons stage rest ih =>
    have handled := (own stage (by simp)).handle_congr alike
    have later := fun cx now => ih (fun s member => own s (by simp [member])) cx now
    simp only [Chain.run, handled, later]

end

/-! ## Request ids -/

/-- A caller's request id is taken from every call that sends it, or from none. -/
theorem chooseId_cases (sent : Option String) :
    (∃ id, id ≠ "" ∧ sent = some id ∧ ∀ fresh, Context.chooseId fresh sent = id) ∨
      sent.getD "" = "" ∧ ∀ fresh, Context.chooseId fresh sent = fresh := by
  cases sent with
  | none => exact .inr ⟨rfl, fun _ => rfl⟩
  | some id =>
    by_cases empty : id = ""
    · exact .inr ⟨empty, fun _ => by simp [Context.chooseId, empty]⟩
    · exact .inl ⟨id, empty, rfl, fun _ => by simp [Context.chooseId, empty]⟩

/-- A value that is not readable and an empty text both leave the choice to the gate. -/
theorem chooseId_getD (fresh : String) (first : Option (List UInt8)) :
    Context.chooseId fresh (first.map fun value => (Grpc.text? value).getD "") =
      Context.chooseId fresh (first.bind Grpc.text?) := by
  cases first with
  | none => rfl
  | some value => cases h : Grpc.text? value <;> simp [Context.chooseId, h]

theorem requestId_context (request : Grpc.Request) (method fresh : String) (now : Instant) :
    (request.context fresh now).requestId =
      Context.chooseId fresh ((request.call method).metadata Call.requestIdKey).head? := by
  rw [request.context_eq, Grpc.Request.firstText?, ← chooseId_getD, ← List.head?_map]
  rfl

theorem requestId_forCall (fresh : String) (call : Call) :
    (Context.forCall fresh call).requestId =
      Context.chooseId fresh (call.metadata Call.requestIdKey).head? := rfl

/-! ## A call whose first device id is no text -/

/-- Its first device id is no text, and the second one does not count. -/
def garbledRequest : Grpc.Request where
  headers := [("device_id", [0xFF]), ("x-request-id", [114, 49]), ("device_id", [101, 55])]
  peer := none
  message := .empty

def garbledCall : MemoryCall where
  method := Message.Method.heartbeat.path
  entries := [("device_id", ""), ("x-request-id", "r1"), ("device_id", "e7")]
  peer := some []
  message := .empty

theorem garbledCall_carries : garbledCall.Carries garbledRequest Message.Method.heartbeat.path where
  method := rfl
  message := rfl
  peer := rfl
  plain := by
    have plain : ∀ key ∈ ["device_id", "x-request-id"], PlainKey key := by
      intro key member
      refine ⟨?_, ?_⟩
      · revert key
        decide +kernel
      · rw [Bool.eq_false_iff, ne_eq, Grpc.endsWith_iff]
        revert key
        decide +kernel
    simp [garbledRequest, plain]
  entries := by
    have deviceId : Worded [101, 55] "e7" := .readable (by decide +kernel) (by decide)
    have requestId : Worded [114, 49] "r1" := .readable (by decide +kernel) (by decide)
    have garbled : Worded [0xFF] "" := .unreadable (List.mem_singleton_self _) (by decide)
    exact .cons ⟨rfl, garbled⟩ (.cons ⟨rfl, requestId⟩ (.cons ⟨rfl, deviceId⟩ .nil))

/-! ## The two transports -/

/-- The gate does the same with a call in memory and with a request. -/
structure TransportsAgree (held : MemoryCall) (request : Grpc.Request) (method : String) :
    Prop where
  /-- A key in any letter case has the same values in the same order. -/
  metadata : ∀ key, held.view.metadata key = (request.call method).metadata key
  /-- They are the texts of the headers with that name. -/
  worded : ∀ key, List.Forall₂ (fun text h => Worded h.2 text) (held.view.metadata key)
    (request.headers.filter fun h => h.1 == key.toLower)
  chain : peerChain held.view = peerChain (request.call method)
  /-- Without a certificate both are refused, whether there is no chain or an empty one. -/
  unpeered : request.peer.getD [] = [] → ∀ call ∈ [held.view, request.call method],
    peerChain call = .error ((Refusal.permissionDenied "missing peer certificates").withNote
      "reason" (.text "missing_peer_certificate"))
  claimed : claimedId held.view = claimedId (request.call method)
  input : Authentication.input held.view = Authentication.input (request.call method)
  /-- Chains of built-in stages admit both with one context or refuse both with one refusal. -/
  run : ∀ chain : Chain, (∀ stage ∈ chain, BuiltIn stage) → ∀ cx now,
    chain.run cx held.view now = chain.run cx (request.call method) now
  /-- The three contexts take the request id that the caller sends first, or, where that is no text
  or empty, each takes a fresh one. -/
  requestId :
    (∃ id, id ≠ "" ∧ (held.view.metadata Call.requestIdKey).head? = some id ∧
      ∀ fresh now, (Context.forCall fresh held.view).requestId = id ∧
        (Context.forCall fresh (request.call method)).requestId = id ∧
        (request.context fresh now).requestId = id) ∨
    (held.view.metadata Call.requestIdKey).head?.getD "" = "" ∧
      ∀ fresh now, (Context.forCall fresh held.view).requestId = fresh ∧
        (Context.forCall fresh (request.call method)).requestId = fresh ∧
        (request.context fresh now).requestId = fresh

theorem transports_agree {held : MemoryCall} {request : Grpc.Request} {method : String}
    (carries : held.Carries request method) : TransportsAgree held request method where
  metadata := carries.metadata_eq
  worded := carries.metadata_worded
  chain := peerChain_congr carries.alike
  unpeered bare := by
    have missing := peerChain_eq (request.call method)
    rw [show (request.call method).peer.getD [] = [] from bare] at missing
    simp [peerChain_congr carries.alike, missing]
  claimed := claimedId_congr carries.alike
  input := input_congr carries.alike
  run _ own cx now := run_congr own carries.alike cx now
  requestId := by
    simp only [requestId_context request method, requestId_forCall, carries.metadata_eq, and_self]
    rcases chooseId_cases ((request.call method).metadata Call.requestIdKey).head? with
      ⟨id, named, sent, taken⟩ | ⟨unsent, fresh⟩
    · exact .inl ⟨id, named, sent, fun fresh _ => taken fresh⟩
    · exact .inr ⟨unsent, fun other _ => fresh other⟩

/-- A value that is no text keeps its place on both transports. -/
theorem garbled_transports_agree :
    garbledCall.Carries garbledRequest Message.Method.heartbeat.path ∧
    TransportsAgree garbledCall garbledRequest Message.Method.heartbeat.path :=
  ⟨garbledCall_carries, transports_agree garbledCall_carries⟩

end Gate

end DeviceAdmission
