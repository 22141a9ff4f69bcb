import DeviceAdmission.Gate.Standard
import DeviceAdmission.Proofs.DeviceId.Fleet
import DeviceAdmission.Proofs.Gate.Passage

/-!
# How the standard gate decides

The standard gate is two stages over a register, two readings of the call and a race. `Decision` is
the whole of it as a list of rules, each with the condition under which it applies and everything
that the caller and the logs get: the events in their order, the instant, and every field of a
refusal.

The rules come in this order. A payload whose id breaks the policy; no peer chain; no claimed id;
a call that is cancelled already, for which the delegate is not asked; and then one consultation of
the delegate, which ends with whichever of cancellation, answer and deadline wins the race, or
never.

* `run_standard_of_decision`: the gate does what a rule says whenever the rule applies.
* `decision_exists`: some rule always applies.
* `run_standard_iff`: the gate's run is the one that the rules give, and no other.
-/
namespace DeviceAdmission.Gate

open Call (Context Instant)
open DeviceId (DeviceRequest encodedResponse)

/-! ## What a call presents -/

/-- The id in the payload, if the message is one that devices send, keeps the policy. -/
def WellFormed (config : Config) (message : Message) : Prop :=
  ∀ rpc id answer, DeviceRequest message rpc id answer → config.policy.check id = .ok ()

/-- The call gets as far as the delegate, which is asked about `input`. -/
structure Presents (config : Config) (call : Call) (input : Delegate.Input) : Prop where
  wellFormed : WellFormed config call.message
  method : input.method = call.method
  peer : call.peer = some input.chain
  chained : input.chain ≠ []
  claimed : (call.metadata Call.deviceIdKey).head? = some input.deviceId
  named : input.deviceId ≠ ""

/-- A failure as the register has it, for the caller with a request id. -/
def about (code : Failure.Code) (requestId : String) : Failure :=
  { Failure.ofCode code with correlationId := some requestId }

/-- What a caller is told of a delegate's failure. -/
def DenialDetail.wording (f : Failure) : DenialDetail → String
  | .forward => f.messageUser
  | .generic => "device authentication failed"

/-! ## The rules -/

/-- The rules of the standard gate, in their order. -/
inductive Decision (config : Config) (delegate : Delegate) (cx : Context) (call : Call)
    (now : Instant) : Run (Except Refusal Context) → Prop where
  /-- The id in the payload breaks the policy. The refusal names the rule and the method and brings
  the method's own rejection, in value and encoded. -/
  | malformed {rpc id : String} {answer : Message} {violation : DeviceId.Violation}
      (sent : DeviceRequest call.message rpc id answer)
      (broken : config.policy.check id = .error violation) :
      Decision config delegate cx call now ⟨[], some (now, .error
        { failure := { about .invalidArgument cx.requestId with
            messageUser := "invalid device id", messageDev := some violation.message,
            notes := [("rpc", .text rpc), ("rule", .text violation.rule)] },
          response := some answer, details := some (encodedResponse answer) })⟩
  /-- There is no chain, or an empty one. -/
  | unpeered (wellFormed : WellFormed config call.message)
      (peer : call.peer = none ∨ call.peer = some []) :
      Decision config delegate cx call now ⟨[], some (now, .error
        { failure := { about .permissionDenied cx.requestId with
            messageUser := "missing peer certificates",
            notes := [("reason", .text "missing_peer_certificate")] } })⟩
  /-- The first value of the device id is absent or empty. -/
  | unnamed {chain : Certificate.Chain} (wellFormed : WellFormed config call.message)
      (peer : call.peer = some chain) (chained : chain ≠ [])
      (unnamed : (call.metadata Call.deviceIdKey).head? = none ∨
        (call.metadata Call.deviceIdKey).head? = some "") :
      Decision config delegate cx call now ⟨[], some (now, .error
        { failure := { about .permissionDenied cx.requestId with
            messageUser := "cannot retrieve device id from metadata",
            notes := [("reason", .text "missing_device_id")] } })⟩
  /-- The call is cancelled already: nobody is asked. -/
  | cancelled {input : Delegate.Input} (presents : Presents config call input)
      (cancelled : cx.isCancelled now = true) :
      Decision config delegate cx call now
        ⟨[], some (now, .error { failure := about .cancelled cx.requestId })⟩
  /-- The call is cancelled before there is an answer. -/
  | interrupted {input : Delegate.Input} {t : Instant} (presents : Presents config call input)
      (live : cx.isCancelled now = false)
      (wins : Wins cx now (delegate input).delay .cancellation t) :
      Decision config delegate cx call now
        ⟨[.consulted input], some (t, .error { failure := about .cancelled cx.requestId })⟩
  /-- The deadline passes before there is an answer. -/
  | expired {input : Delegate.Input} {t : Instant} (presents : Presents config call input)
      (live : cx.isCancelled now = false)
      (wins : Wins cx now (delegate input).delay .deadline t) :
      Decision config delegate cx call now
        ⟨[.consulted input], some (t, .error { failure := about .deadlineExceeded cx.requestId })⟩
  /-- The delegate turns the caller away. Its own failure is recorded; the caller gets its message
  or the fixed one. -/
  | denied {input : Delegate.Input} {t : Instant} {f : Failure}
      (presents : Presents config call input) (live : cx.isCancelled now = false)
      (wins : Wins cx now (delegate input).delay .work t)
      (verdict : (delegate input).verdict = .error f) :
      Decision config delegate cx call now
        ⟨[.consulted input, .denied ⟨cx.requestId, call.method, input.deviceId, f.toAudit⟩],
          some (t, .error
            { failure := { about .permissionDenied cx.requestId with
                messageUser := config.authentication.denialDetail.wording f,
                messageDev := f.messageDev,
                notes := [("delegate_code", .text f.code.name),
                  ("reason", .text "delegate_denied")] } })⟩
  /-- The delegate knows the caller. -/
  | admitted {input : Delegate.Input} {t : Instant} {identity : Identity}
      (presents : Presents config call input) (live : cx.isCancelled now = false)
      (wins : Wins cx now (delegate input).delay .work t)
      (verdict : (delegate input).verdict = .ok identity) :
      Decision config delegate cx call now
        ⟨[.consulted input], some (t, .ok { cx with identity := some identity })⟩
  /-- The delegate never answers, and nothing else ends the call. -/
  | unanswered {input : Delegate.Input} (presents : Presents config call input)
      (live : cx.isCancelled now = false)
      (never : ∀ w, occurs cx now (delegate input).delay w = none) :
      Decision config delegate cx call now ⟨[.consulted input], none⟩

/-! ## What the two stages do -/

section

variable {registry : DeviceId.Registry} {policy : DeviceId.Policy} {delegate : Delegate}
  {detail : DenialDetail} {input : Delegate.Input} {refusal : Refusal} {cx : Context} {call : Call}
  {now : Instant}

theorem FormatCheck.handle_of_ok (passed : check registry policy call.message = .ok ()) :
    (stage registry policy).handle cx call now = ⟨[], some (now, .ok .proceed)⟩ := by
  simp only [stage, passed]
  rfl

theorem FormatCheck.handle_of_error
    (refused : check registry policy call.message = .error refusal) :
    (stage registry policy).handle cx call now = ⟨[], some (now, .error refusal)⟩ := by
  simp only [stage, refused]
  rfl

theorem Authentication.handle_of_unreadable
    (unreadable : Authentication.input call = .error refusal) :
    (stage delegate detail).handle cx call now = ⟨[], some (now, .error refusal)⟩ := by
  simp only [stage, unreadable]
  rfl

theorem Authentication.handle_of_readable (read : Authentication.input call = .ok input) :
    (stage delegate detail).handle cx call now =
      (authenticate delegate detail cx input now).map fun result =>
        result.map Outcome.authenticated := by
  simp only [stage, read]

end

/-! ## What each rule gives -/

section

variable {config : Config} {delegate : Delegate} {cx : Context} {call : Call} {now t : Instant}
  {input : Delegate.Input}

theorem check_of_wellFormed {message : Message} (wellFormed : WellFormed config message) :
    FormatCheck.check DeviceId.Registry.fleet config.policy message = .ok () := by
  by_cases sent : ∃ rpc id answer, DeviceRequest message rpc id answer
  · obtain ⟨rpc, id, answer, sent⟩ := sent
    obtain ⟨field, found, -⟩ := DeviceId.Registry.lookup_fleet sent
    simp [FormatCheck.check, found, wellFormed rpc id answer sent]
  · have unsent : ∀ rpc id answer, ¬ DeviceRequest message rpc id answer :=
      fun rpc id answer h => sent ⟨rpc, id, answer, h⟩
    simp [FormatCheck.check, DeviceId.Registry.lookup_fleet_none unsent]

theorem check_of_broken {message answer : Message} {rpc id : String}
    {violation : DeviceId.Violation} (sent : DeviceRequest message rpc id answer)
    (broken : config.policy.check id = .error violation) :
    ∃ field, DeviceId.Registry.Describes field rpc answer ∧
      FormatCheck.check DeviceId.Registry.fleet config.policy message =
        .error (FormatCheck.refusal field violation) := by
  obtain ⟨field, found, describes⟩ := DeviceId.Registry.lookup_fleet sent
  exact ⟨field, describes, by simp [FormatCheck.check, found, broken]⟩

theorem run_standard_of_broken {rpc id : String} {answer : Message}
    {violation : DeviceId.Violation} (sent : DeviceRequest call.message rpc id answer)
    (broken : config.policy.check id = .error violation) :
    (standard config delegate).run cx call now = ⟨[], some (now, .error
      { failure := { about .invalidArgument cx.requestId with
          messageUser := "invalid device id", messageDev := some violation.message,
          notes := [("rpc", .text rpc), ("rule", .text violation.rule)] },
        response := some answer, details := some (encodedResponse answer) })⟩ := by
  obtain ⟨field, describes, refused⟩ := check_of_broken sent broken
  rw [standard, Chain.run_cons_error _ (FormatCheck.handle_of_error refused), ← describes.details,
    ← describes.rejection, ← describes.rpc]
  rfl

/-- A well formed payload leaves the decision to authentication. -/
theorem run_standard_of_wellFormed (wellFormed : WellFormed config call.message) :
    (standard config delegate).run cx call now =
      Chain.run [Authentication.stage delegate config.authentication.denialDetail] cx call now := by
  have passed := check_of_wellFormed wellFormed
  rw [standard, Chain.run_cons_ok _ (FormatCheck.handle_of_ok passed), Run.after_nil]
  rfl

theorem run_standard_of_unreadable {refusal : Refusal}
    (wellFormed : WellFormed config call.message)
    (unreadable : Authentication.input call = .error refusal) :
    (standard config delegate).run cx call now =
      ⟨[], some (now, .error (refusal.correlate cx.requestId))⟩ := by
  rw [run_standard_of_wellFormed wellFormed,
    Chain.run_cons_error _ (Authentication.handle_of_unreadable unreadable)]

theorem input_of_unpeered (peer : call.peer = none ∨ call.peer = some []) :
    Authentication.input call =
      .error ((Refusal.permissionDenied "missing peer certificates").withNote "reason"
        (.text "missing_peer_certificate")) := by
  rcases peer with peer | peer <;> simp [Authentication.input, peerChain, peer, bind, Except.bind]

theorem peerChain_of_chained {chain : Certificate.Chain} (peer : call.peer = some chain)
    (chained : chain ≠ []) : peerChain call = .ok chain := by
  cases chain with
  | nil => exact absurd rfl chained
  | cons leaf rest => simp [peerChain, peer]

theorem input_of_unnamed {chain : Certificate.Chain} (peer : call.peer = some chain)
    (chained : chain ≠ [])
    (unnamed : (call.metadata Call.deviceIdKey).head? = none ∨
      (call.metadata Call.deviceIdKey).head? = some "") :
    Authentication.input call =
      .error ((Refusal.permissionDenied "cannot retrieve device id from metadata").withNote
        "reason" (.text "missing_device_id")) := by
  have nameless : claimedId call =
      .error ((Refusal.permissionDenied "cannot retrieve device id from metadata").withNote
        "reason" (.text "missing_device_id")) := by
    unfold claimedId
    cases values : call.metadata Call.deviceIdKey with
    | nil => rfl
    | cons first others =>
      have empty : first = "" := by simpa [values] using unnamed
      simp [empty]
  simp [Authentication.input, peerChain_of_chained peer chained, nameless, bind, Except.bind]

theorem Presents.input_eq (presents : Presents config call input) :
    Authentication.input call = .ok input := by
  have claimed : claimedId call = .ok input.deviceId := by
    have first := presents.claimed
    unfold claimedId
    cases values : call.metadata Call.deviceIdKey with
    | nil => simp [values] at first
    | cons id others =>
      have same : id = input.deviceId := by simpa [values] using first
      simp [same, presents.named]
  simp [Authentication.input, peerChain_of_chained presents.peer presents.chained, claimed, bind,
    Except.bind, pure, Except.pure, ← presents.method]

theorem Presents.unique {other : Delegate.Input} (presents : Presents config call input)
    (again : Presents config call other) : input = other :=
  Except.ok.inj (presents.input_eq.symm.trans again.input_eq)

/-- The delegate's stage decides about a call that gets as far. -/
theorem run_standard_of_presents (presents : Presents config call input) :
    (standard config delegate).run cx call now =
      (Authentication.authenticate delegate config.authentication.denialDetail cx input now).andThen
        fun t result => match result with
          | .error refusal => Run.done t (.error (refusal.correlate cx.requestId))
          | .ok identity => Run.done t (.ok (cx.withIdentity identity)) := by
  rw [run_standard_of_wellFormed presents.wellFormed]
  rcases asked : Authentication.authenticate delegate config.authentication.denialDetail cx input
      now with ⟨seen, _ | ⟨t, refusal | identity⟩⟩ <;>
    simp [Chain.run, Authentication.handle_of_readable presents.input_eq, asked, Run.map, Except.map,
      Run.done]

theorem authenticate_of_cancelled (detail : DenialDetail) (h : cx.isCancelled now = true) :
    Authentication.authenticate delegate detail cx input now =
      ⟨[], some (now, .error .cancelled)⟩ := by
  rw [Authentication.authenticate, bounded_cancelled _ h]
  rfl

/-- A consultation that is cut short by the bounds of the call. -/
theorem authenticate_of_bound (detail : DenialDetail) {w : Winner} {refusal : Refusal}
    (live : cx.isCancelled now = false) (wins : Wins cx now (delegate input).delay w t)
    (cut : w.outcome (delegate input).verdict = .error refusal) :
    Authentication.authenticate delegate detail cx input now =
      ⟨[.consulted input], some (t, .error refusal)⟩ := by
  rw [Authentication.authenticate, bounded_of_wins _ live wins, Run.andThen_ended]
  simp only [cut]
  rfl

theorem authenticate_of_error (detail : DenialDetail) {f : Failure}
    (live : cx.isCancelled now = false) (wins : Wins cx now (delegate input).delay .work t)
    (verdict : (delegate input).verdict = .error f) :
    Authentication.authenticate delegate detail cx input now =
      ⟨[.consulted input, .denied ⟨cx.requestId, input.method, input.deviceId, f.toAudit⟩],
        some (t, .error (Authentication.denial detail f))⟩ := by
  rw [Authentication.authenticate, bounded_of_wins _ live wins, Run.andThen_ended]
  simp only [Winner.outcome, verdict]
  rfl

theorem authenticate_of_ok (detail : DenialDetail) {identity : Identity}
    (live : cx.isCancelled now = false) (wins : Wins cx now (delegate input).delay .work t)
    (verdict : (delegate input).verdict = .ok identity) :
    Authentication.authenticate delegate detail cx input now =
      ⟨[.consulted input], some (t, .ok identity)⟩ := by
  rw [Authentication.authenticate, bounded_of_wins _ live wins, Run.andThen_ended]
  simp only [Winner.outcome, verdict]
  rfl

theorem authenticate_of_never (detail : DenialDetail) (live : cx.isCancelled now = false)
    (never : ∀ w, occurs cx now (delegate input).delay w = none) :
    Authentication.authenticate delegate detail cx input now = ⟨[.consulted input], none⟩ := by
  rw [Authentication.authenticate, bounded_endless _ live never]
  rfl

/-- The delegate's code and message for the logs go with the refusal, and nothing else of it. -/
theorem correlate_denial (detail : DenialDetail) (f : Failure) (requestId : String) :
    (Authentication.denial detail f).correlate requestId =
      { failure := { about .permissionDenied requestId with
          messageUser := detail.wording f, messageDev := f.messageDev,
          notes := [("delegate_code", .text f.code.name),
            ("reason", .text "delegate_denied")] } } := by
  unfold Authentication.denial
  cases detail <;> cases f.messageDev <;> rfl

/-! ## The rules are the gate -/

theorem run_standard_of_decision {r : Run (Except Refusal Context)}
    (h : Decision config delegate cx call now r) :
    (standard config delegate).run cx call now = r := by
  cases h with
  | malformed sent broken => exact run_standard_of_broken sent broken
  | unpeered wellFormed peer =>
    rw [run_standard_of_unreadable wellFormed (input_of_unpeered peer)]
    rfl
  | unnamed wellFormed peer chained unnamed =>
    rw [run_standard_of_unreadable wellFormed (input_of_unnamed peer chained unnamed)]
    rfl
  | cancelled presents cancelled =>
    rw [run_standard_of_presents presents, authenticate_of_cancelled _ cancelled]
    rfl
  | interrupted presents live wins =>
    rw [run_standard_of_presents presents, authenticate_of_bound _ live wins rfl]
    rfl
  | expired presents live wins =>
    rw [run_standard_of_presents presents, authenticate_of_bound _ live wins rfl]
    rfl
  | denied presents live wins verdict =>
    rw [run_standard_of_presents presents, authenticate_of_error _ live wins verdict,
      ← correlate_denial, presents.method]
    rfl
  | admitted presents live wins verdict =>
    rw [run_standard_of_presents presents, authenticate_of_ok _ live wins verdict]
    rfl
  | unanswered presents live never =>
    rw [run_standard_of_presents presents, authenticate_of_never _ live never]
    rfl

/-- A call is malformed, lacks a chain or an id, or gets as far as the delegate. -/
theorem presents_or_short (config : Config) (call : Call) :
    (∃ rpc id answer violation, DeviceRequest call.message rpc id answer ∧
      config.policy.check id = .error violation) ∨
    WellFormed config call.message ∧
      ((call.peer = none ∨ call.peer = some []) ∨
        ∃ chain, call.peer = some chain ∧ chain ≠ [] ∧
          ((call.metadata Call.deviceIdKey).head? = none ∨
            (call.metadata Call.deviceIdKey).head? = some "")) ∨
    ∃ input, Presents config call input := by
  by_cases broken : ∃ rpc id answer violation, DeviceRequest call.message rpc id answer ∧
      config.policy.check id = .error violation
  · exact .inl broken
  · have wellFormed : WellFormed config call.message := by
      intro rpc id answer sent
      cases judged : config.policy.check id with
      | ok _ => rfl
      | error violation => exact absurd ⟨rpc, id, answer, violation, sent, judged⟩ broken
    rcases peer : call.peer with _ | chain
    · exact .inr (.inl ⟨wellFormed, .inl (.inl rfl)⟩)
    · by_cases chained : chain = []
      · exact .inr (.inl ⟨wellFormed, .inl (.inr (by rw [chained]))⟩)
      · rcases claimed : (call.metadata Call.deviceIdKey).head? with _ | id
        · exact .inr (.inl ⟨wellFormed, .inr ⟨chain, rfl, chained, .inl rfl⟩⟩)
        · by_cases named : id = ""
          · exact .inr (.inl ⟨wellFormed, .inr ⟨chain, rfl, chained, .inr (by rw [named])⟩⟩)
          · exact .inr (.inr ⟨⟨call.method, id, chain⟩,
              ⟨wellFormed, rfl, peer, chained, claimed, named⟩⟩)

/-- Some rule always applies. -/
theorem decision_exists (config : Config) (delegate : Delegate) (cx : Context) (call : Call)
    (now : Instant) : ∃ r, Decision config delegate cx call now r := by
  rcases presents_or_short config call with ⟨rpc, id, answer, violation, sent, broken⟩ |
    ⟨wellFormed, peer | ⟨chain, peer, chained, unnamed⟩⟩ | ⟨input, presents⟩
  · exact ⟨_, .malformed sent broken⟩
  · exact ⟨_, .unpeered wellFormed peer⟩
  · exact ⟨_, .unnamed wellFormed peer chained unnamed⟩
  · cases live : cx.isCancelled now with
    | true => exact ⟨_, .cancelled presents live⟩
    | false =>
      rcases ran : race cx now (delegate input).delay with _ | ⟨t, _ | _ | _⟩
      · exact ⟨_, .unanswered presents live ((race_eq_none_iff ..).1 ran)⟩
      · have wins := (race_eq_some_iff ..).1 ran
        cases verdict : (delegate input).verdict with
        | error f => exact ⟨_, .denied presents live wins verdict⟩
        | ok identity => exact ⟨_, .admitted presents live wins verdict⟩
      · exact ⟨_, .interrupted presents live ((race_eq_some_iff ..).1 ran)⟩
      · exact ⟨_, .expired presents live ((race_eq_some_iff ..).1 ran)⟩

/-- Whoever is let in was asked about and accepted. -/
theorem presents_of_admitted {cx' : Context}
    (admitted : ((standard config delegate).run cx call now).ending = some (t, .ok cx')) :
    ∃ input identity, Presents config call input ∧ cx.isCancelled now = false ∧
      (delegate input).verdict = .ok identity ∧ cx'.identity = some identity := by
  obtain ⟨r, decided⟩ := decision_exists config delegate cx call now
  rw [run_standard_of_decision decided] at admitted
  cases decided with
  | admitted presents live wins verdict =>
    cases admitted
    exact ⟨_, _, presents, live, verdict, rfl⟩
  | _ => cases admitted

end

/-- The gate's run on a call is the one that the rules give, and no other. -/
theorem run_standard_iff (config : Config) (delegate : Delegate) (cx : Context) (call : Call)
    (now : Instant) (r : Run (Except Refusal Context)) :
    (standard config delegate).run cx call now = r ↔ Decision config delegate cx call now r := by
  constructor
  · rintro rfl
    obtain ⟨r, decided⟩ := decision_exists config delegate cx call now
    exact (run_standard_of_decision decided).symm ▸ decided
  · exact run_standard_of_decision

/-! ## A device with its certificate -/

def leafCertificate : Certificate := ⟨[108, 101, 97, 102]⟩

/-- A call under a device id in the metadata, with the certificate. -/
def callAs (id method : String) (message : Message) : Call :=
  (MemoryCall.mk method [(Call.deviceIdKey, id)] (some [leafCertificate]) message).view

theorem callAs_presents {config : Config} {id method : String} {message : Message}
    (named : id ≠ "") (wellFormed : WellFormed config message) :
    Presents config (callAs id method message) ⟨method, id, [leafCertificate]⟩ where
  wellFormed := wellFormed
  method := rfl
  peer := rfl
  chained := nofun
  claimed := by simp [callAs, MemoryCall.view, Call.sameIgnoringCase]
  named := named

end DeviceAdmission.Gate
