import DeviceAdmission.Proofs.Config.Loading
import DeviceAdmission.Proofs.Gate.Admission

/-!
# The tool foretells the gate

An operator asks the tool about a device id before a device uses it. The tool judges the id by the
policy of the configuration that it loads; the gate judges requests by the policy of the
configuration that it was built from, after it has found the id in them. With one configuration the
two say the same: the tool calls an id valid if the gate refuses no request for its format that
carries the id, and else it names the rule that the gate names for each of them.

* `Gate.refusesFormat_iff`, `Gate.refusedFor_of_broken`: what the first stage of the standard gate
  makes of a request.
* `CommandLine.Invocation.run_of_kept`, `CommandLine.Invocation.run_of_broken`: what the tool prints
  and reports about an id.
* `CommandLine.Invocation.answer_eq`: no setting for logs has a part in what it prints.
* `CommandLine.tool_foretells_gate`: the tool and the gate together.
-/
namespace DeviceAdmission

open Call (Context Instant)
open DeviceId (DeviceRequest Violation)

/-! ## The format stage -/

namespace Gate

/-- A call whose message is one of the requests that devices send, with an id in it. -/
def Carries (call : Call) (id : String) : Prop :=
  ∃ rpc answer, DeviceRequest call.message rpc id answer

/-- The first stage of the standard gate ends so, at once and without a trace. -/
def FormatEnds (config : Config) (delegate : Delegate) (cx : Context) (call : Call) (now : Instant)
    (result : Except Refusal Outcome) : Prop :=
  ∃ first rest, standard config delegate = first :: rest ∧ first.name = "device_id_guard" ∧
    first.handle cx call now = ⟨[], some (now, result)⟩

/-- The first stage refuses a call. -/
def RefusesFormat (config : Config) (call : Call) : Prop :=
  ∃ delegate cx now refusal, FormatEnds config delegate cx call now (.error refusal)

/-- A refusal at the first stage, which is that of the gate and names a rule. -/
structure RefusedFor (rule : String) (config : Config) (delegate : Delegate) (cx : Context)
    (call : Call) (now : Instant) (refusal : Refusal) : Prop where
  stage : FormatEnds config delegate cx call now (.error refusal)
  gate : (standard config delegate).run cx call now =
    ⟨[], some (now, .error (refusal.correlate cx.requestId))⟩
  code : refusal.failure.code = Failure.Code.invalidArgument
  rule : Json.lookup refusal.failure.notes "rule" = some (.text rule)

section

variable {config : Config} {delegate : Delegate} {cx : Context} {call : Call} {now : Instant}
  {id : String}

/-- The stage judges the message by the policy; nothing else has a part in it. -/
theorem formatEnds_iff (result : Except Refusal Outcome) :
    FormatEnds config delegate cx call now result ↔
      result = (FormatCheck.check DeviceId.Registry.fleet config.policy call.message).map
        fun _ => .proceed := by
  constructor
  · rintro ⟨first, rest, whole, -, ended⟩
    obtain ⟨rfl, -⟩ := List.cons.inj whole
    injection ended with _ ending
    injection ending with both
    exact (congrArg Prod.snd both).symm
  · rintro rfl
    exact ⟨_, _, rfl, rfl, rfl⟩

theorem formatEnds_of_kept (carries : Carries call id) (kept : config.policy.check id = .ok ()) :
    FormatEnds config delegate cx call now (.ok .proceed) := by
  obtain ⟨rpc, answer, sent⟩ := carries
  obtain ⟨field, found, -⟩ := DeviceId.Registry.lookup_fleet sent
  rw [formatEnds_iff, FormatCheck.check, found]
  simp only [kept]
  rfl

theorem refusedFor_of_broken {violation : Violation} (carries : Carries call id)
    (broken : config.policy.check id = .error violation) (delegate : Delegate) (cx : Context)
    (now : Instant) : ∃ refusal, RefusedFor violation.rule config delegate cx call now refusal := by
  obtain ⟨rpc, answer, sent⟩ := carries
  obtain ⟨field, describes, refused⟩ := check_of_broken sent broken
  refine ⟨FormatCheck.refusal field violation, ?_, ?_, rfl, rfl⟩
  · rw [formatEnds_iff, refused]
    rfl
  · rw [run_standard_of_broken sent broken, ← describes.details, ← describes.rejection,
      ← describes.rpc]
    rfl

/-- The stage refuses the calls with an id if the id breaks the policy. -/
theorem refusesFormat_iff (carries : Carries call id) :
    RefusesFormat config call ↔ ∃ violation, config.policy.check id = .error violation := by
  constructor
  · rintro ⟨delegate, cx, now, refusal, refused⟩
    cases judged : config.policy.check id with
    | error violation => exact ⟨violation, rfl⟩
    | ok _ =>
      have passed : FormatEnds config delegate cx call now (.ok .proceed) :=
        formatEnds_of_kept carries judged
      rw [formatEnds_iff, ← (formatEnds_iff _).1 refused] at passed
      cases passed
  · rintro ⟨violation, broken⟩
    obtain ⟨refusal, refused⟩ := refusedFor_of_broken carries broken
      (fun _ => .now (.error (.ofCode .internal))) (.ofRequestId "") 0
    exact ⟨_, _, _, refusal, refused.stage⟩

/-- There is a request with any id. -/
theorem exists_carries (id : String) : ∃ call, Carries call id :=
  ⟨⟨"", fun _ => [], none, _⟩, _, _, .heartbeat { deviceId := id }⟩

end

end Gate

/-! ## The journal -/

namespace CommandLine

/-- The environment asks for a log filter that keeps the errors of the tool back. -/
def hidesErrors (environment : Option String) : Bool :=
  (environment.bind Log.Filter.parse?).any fun filter =>
    !filter.passes .error "fleetgate" ["message"]

/-- The line about an id that breaks a rule. -/
def refusalLine (json : Bool) (rule reason : String) : String :=
  if json then
    "ERROR " ++ (Json.object
      [("message", .text ("Command failed: invalid (" ++ rule ++ "): " ++ reason))]).render
  else "ERROR Command failed: invalid (" ++ rule ++ "): " ++ Log.Record.harmless reason

theorem passes_ofLevel (level : Log.Level) (target : String) (fields : List String) :
    (Log.Filter.ofLevel level).passes .error target fields = true := by
  cases level <;> rfl

/-- Errors are reported unless the environment asks for something else. -/
theorem passes_of_ofSettings {level : String} {debug : Bool} {environment : Option String}
    {filter : Log.Filter} (chosen : Log.Filter.ofSettings level debug environment = .ok filter) :
    filter.passes .error "fleetgate" ["message"] = !hidesErrors environment := by
  unfold Log.Filter.ofSettings at chosen
  split at chosen
  · cases chosen
  · cases chosen
    unfold hidesErrors
    cases environment.bind Log.Filter.parse? with
    | none => exact passes_ofLevel _ _ _
    | some filter => simp

theorem journal_append (filter : Log.Filter) (json : Bool) (rs others : List Log.Record) :
    journal filter json (rs ++ others) = journal filter json rs ++ journal filter json others := by
  simp only [journal, List.filter_append, List.map_append, String.join_append]

theorem harmless_append (s t : String) :
    Log.Record.harmless (s ++ t) = Log.Record.harmless s ++ Log.Record.harmless t := by
  unfold Log.Record.harmless
  rw [String.toList_append, List.map_append, String.join_append]

theorem harmless_rule (v : Violation) :
    Log.Record.harmless ("Command failed: invalid (" ++ v.rule ++ "): ") =
      "Command failed: invalid (" ++ v.rule ++ "): " := by
  have fixed : ∀ rule ∈ ["empty", "too_long", "forbidden_char"],
      Log.Record.harmless ("Command failed: invalid (" ++ rule ++ "): ") =
        "Command failed: invalid (" ++ rule ++ "): " := by decide
  refine fixed v.rule ?_
  cases v <;> simp [Violation.rule]

theorem heading_error : Log.Level.error.heading = "ERROR" := by
  have upper : "error".toUpper = "ERROR" := by
    rw [← String.toList_inj]
    exact String.toList_map
  exact upper

theorem message_commandFailed (v : Violation) : (commandFailed (.invalidId v)).message =
    "Command failed: invalid (" ++ v.rule ++ "): " ++ v.message := by
  have joined : "Command failed: " ++ "invalid (" = "Command failed: invalid (" := by decide
  calc (commandFailed (.invalidId v)).message
      = "Command failed: " ++ ("invalid (" ++ v.rule ++ "): " ++ v.message) := rfl
    _ = "Command failed: " ++ "invalid (" ++ v.rule ++ "): " ++ v.message := by
      simp only [String.append_assoc]
    _ = _ := by rw [joined]

theorem line_commandFailed (v : Violation) :
    (commandFailed (.invalidId v)).line = refusalLine false v.rule v.message := by
  have pair : ∀ s t : String, " ".intercalate [s, t] = s ++ " " ++ t := fun _ _ => rfl
  have joined : "ERROR" ++ " " ++ "Command failed: invalid (" =
      "ERROR Command failed: invalid (" := by decide
  calc (commandFailed (.invalidId v)).line
      = Log.Level.error.heading ++ " " ++
          Log.Record.harmless (commandFailed (.invalidId v)).message := pair _ _
    _ = "ERROR" ++ " " ++ ("Command failed: invalid (" ++ v.rule ++ "): " ++
          Log.Record.harmless v.message) := by
      rw [heading_error, message_commandFailed, harmless_append, harmless_rule]
    _ = "ERROR" ++ " " ++ "Command failed: invalid (" ++ v.rule ++ "): " ++
          Log.Record.harmless v.message := by
      simp only [String.append_assoc]
    _ = _ := by rw [joined]; rfl

theorem jsonLine_commandFailed (v : Violation) :
    (commandFailed (.invalidId v)).jsonLine = refusalLine true v.rule v.message := by
  have joined : "ERROR" ++ " " = "ERROR " := by decide
  unfold Log.Record.jsonLine Log.Record.members
  rw [show (commandFailed (.invalidId v)).fields = [] from rfl, List.mergeSort_singleton,
    message_commandFailed]
  simp only [List.map_cons, List.map_nil]
  rw [show (commandFailed (.invalidId v)).level.heading = "ERROR" from heading_error, joined]
  rfl

theorem journal_commandFailed (filter : Log.Filter) (json : Bool) (v : Violation) :
    journal filter json [commandFailed (.invalidId v)] =
      if filter.passes .error "fleetgate" ["message"] then refusalLine json v.rule v.message ++ "\n"
      else "" := by
  have passes : filter.passes (commandFailed (.invalidId v)).level
      (commandFailed (.invalidId v)).target (commandFailed (.invalidId v)).fieldNames =
        filter.passes .error "fleetgate" ["message"] := rfl
  cases known : filter.passes .error "fleetgate" ["message"] <;> cases json <;>
    simp [journal, passes, known, line_commandFailed, jsonLine_commandFailed]

/-! ## Asking about an id -/

/-- The options leave the tool with a log level: with the flag for debugging any, else the one that
they name. -/
def Options.NameLevel (o : Options) : Prop :=
  o.debug = true ∨ ∀ text, o.logLevel = some text → ∃ level, Log.Level.parse? text = some level

namespace Invocation

variable {i : Invocation} {id : String} {files : Files.System} {shown : String}
  {environment : Option String} {c : Config} {filter : Log.Filter}

/-- The tool starts with every configuration that it can load. -/
theorem exists_start (named : i.options.NameLevel)
    (loaded : Config.load files i.options.configPath shown = .ok c) (environment : Option String) :
    ∃ filter, i.start files shown environment = .ok (c, filter) := by
  have valid := Config.check_eq_ok_iff.1 (Config.check_of_load loaded)
  have chosen : ∃ filter, Log.Filter.ofSettings (i.options.logLevel.getD c.logging.level)
      i.options.debug environment = .ok filter := by
    cases given : i.options.logLevel with
    | none => exact valid.filter _ _
    | some text =>
      obtain debug | names := named
      · rw [debug]
        exact ⟨_, rfl⟩
      · obtain ⟨level, read⟩ := names text given
        unfold Log.Filter.ofSettings
        rw [Option.getD_some, read]
        cases i.options.debug <;> exact ⟨_, rfl⟩
  obtain ⟨filter, chosen⟩ := chosen
  exact ⟨filter, start_eq_ok_iff.2 ⟨loaded, chosen⟩⟩

/-- A tool that cannot load a configuration does not start. -/
theorem run_of_unloaded {e : Config.LoadError}
    (refused : Config.load files i.options.configPath shown = .error e)
    (environment : Option String) :
    i.run files shown environment = ⟨1, "", (StartError.config e).text⟩ := by
  unfold run start
  rw [refused]
  rfl

theorem run_of_kept (asks : i.command = .checkId id)
    (started : i.start files shown environment = .ok (c, filter))
    (kept : c.policy.check id = .ok ()) : i.run files shown environment =
      ⟨0, "valid\n", journal filter c.logging.json [configLoaded i.options.configPath]⟩ := by
  unfold run Command.run
  simp only [started, asks, kept]
  rfl

theorem run_of_broken {v : Violation} (asks : i.command = .checkId id)
    (started : i.start files shown environment = .ok (c, filter))
    (broken : c.policy.check id = .error v) : i.run files shown environment =
      ⟨1, "", journal filter c.logging.json [configLoaded i.options.configPath] ++
        if hidesErrors environment then ""
        else refusalLine c.logging.json v.rule v.message ++ "\n"⟩ := by
  have passes := passes_of_ofSettings (start_eq_ok_iff.1 started).2
  have reported := journal_append filter c.logging.json [configLoaded i.options.configPath]
    [commandFailed (.invalidId v)]
  rw [journal_commandFailed, passes] at reported
  unfold run Command.run
  simp only [started, asks, broken]
  change Outcome.mk 1 "" (journal filter c.logging.json
    ([configLoaded i.options.configPath] ++ [commandFailed (.invalidId v)])) = _
  rw [reported]
  cases hidesErrors environment <;> rfl

/-- An id after the name of the command is the one that is asked about; after two dashes it may
begin with a dash itself. -/
theorem parseAfter_checkId (o : Options) (id : String) :
    parseAfter o ["check-id", "--", id] = some ⟨o, .checkId id⟩ := rfl

theorem parseAfter_checkId_bare (o : Options) {id : String} (bare : isOption id = false) :
    parseAfter o ["check-id", id] = some ⟨o, .checkId id⟩ := by
  have word : isOption "check-id" = false := by decide
  have other : id ≠ "--" := by
    rintro rfl
    cases bare
  unfold parseAfter
  simp [word, Command.parse?, operands?, bare, other]

end Invocation

/-- The exit status and the output of the question about an id, by the format of ids that has been
loaded. -/
def answer (id : String) : Option DeviceIdConfig → Nat × String
  | none => (1, "")
  | some format =>
    match ({ deviceId := format } : Config).policy.check id with
    | .ok _ => (0, "valid\n")
    | .error _ => (1, "")

theorem Invocation.answer_eq {i : Invocation} {id : String} (asks : i.command = .checkId id)
    (named : i.options.NameLevel) (files : Files.System) (shown : String)
    (environment : Option String) :
    ((i.run files shown environment).exitCode, (i.run files shown environment).output) =
      answer id ((Config.load files i.options.configPath shown).toOption.map (·.deviceId)) := by
  cases loaded : Config.load files i.options.configPath shown with
  | error e =>
    rw [run_of_unloaded loaded environment]
    rfl
  | ok c =>
    obtain ⟨filter, started⟩ := exists_start named loaded environment
    have format : ({ deviceId := c.deviceId } : Config).policy = c.policy := rfl
    simp only [Except.toOption, Option.map_some, answer, format]
    cases judged : c.policy.check id with
    | ok _ => rw [run_of_kept asks started judged]
    | error v => rw [run_of_broken asks started judged]

example : answer "sensor-1" (some {}) = (0, "valid\n") := by decide

example : answer "sensor-1" (some { maxLength := 4 }) = (1, "") := by decide

/-! ## The tool and the gate -/

open Gate (Carries RefusedFor RefusesFormat)

/-- What becomes of the question about an id, and of the requests with the id at a gate with the same
configuration. -/
structure Foretells (i : Invocation) (id : String) (files : Files.System) (shown : String)
    (environment : Option String) (outcome : Outcome) : Prop where
  /-- The id is called valid if no request with it is refused for its format. -/
  valid : outcome.exitCode = 0 ∧ outcome.output = "valid\n" ↔
    ∃ c, Config.load files i.options.configPath shown = .ok c ∧
      ∀ call, Carries call id → ¬ RefusesFormat c call
  /-- If one of them is, so are all for the same rule, and the tool reports this rule. -/
  refused : ∀ c call, Config.load files i.options.configPath shown = .ok c → Carries call id →
    RefusesFormat c call →
    outcome.exitCode = 1 ∧ outcome.output = "" ∧
      ∃ rule reason filter, i.start files shown environment = .ok (c, filter) ∧
        outcome.report = journal filter c.logging.json [configLoaded i.options.configPath] ++
          (if hidesErrors environment then "" else refusalLine c.logging.json rule reason ++ "\n") ∧
        ∀ other, Carries other id → ∀ delegate cx now, ∃ refusal,
          RefusedFor rule c delegate cx other now refusal
  /-- Without a configuration there is no gate, and no answer. -/
  unloaded : ∀ e, Config.load files i.options.configPath shown = .error e →
    outcome.exitCode = 1 ∧ outcome.output = ""

namespace Invocation

variable {i : Invocation} {id : String} {files : Files.System} {shown : String}
  {environment : Option String} {c : Config} {filter : Log.Filter}

theorem foretells_of_unloaded {e : Config.LoadError}
    (refused : Config.load files i.options.configPath shown = .error e) :
    Foretells i id files shown environment (i.run files shown environment) := by
  rw [run_of_unloaded refused environment]
  constructor
  · constructor
    · intro done
      cases done.1
    · rintro ⟨c, loaded, -⟩
      cases refused.symm.trans loaded
  · intro c call loaded
    cases refused.symm.trans loaded
  · exact fun _ _ => ⟨rfl, rfl⟩

theorem foretells_of_kept (asks : i.command = .checkId id)
    (started : i.start files shown environment = .ok (c, filter))
    (kept : c.policy.check id = .ok ()) :
    Foretells i id files shown environment (i.run files shown environment) := by
  have loaded := (start_eq_ok_iff.1 started).1
  have passes : ∀ call, Carries call id → ¬ RefusesFormat c call := by
    intro call carries refuses
    obtain ⟨v, broken⟩ := (Gate.refusesFormat_iff carries).1 refuses
    cases kept.symm.trans broken
  rw [run_of_kept asks started kept]
  constructor
  · exact ⟨fun _ => ⟨c, loaded, passes⟩, fun _ => ⟨rfl, rfl⟩⟩
  · intro d call loaded' carries refuses
    cases loaded.symm.trans loaded'
    exact absurd refuses (passes call carries)
  · intro e refused
    cases loaded.symm.trans refused

theorem foretells_of_broken {v : Violation} (asks : i.command = .checkId id)
    (started : i.start files shown environment = .ok (c, filter))
    (broken : c.policy.check id = .error v) :
    Foretells i id files shown environment (i.run files shown environment) := by
  have loaded := (start_eq_ok_iff.1 started).1
  rw [run_of_broken asks started broken]
  constructor
  · constructor
    · intro done
      cases done.1
    · rintro ⟨d, loaded', passes⟩
      cases loaded.symm.trans loaded'
      obtain ⟨call, carries⟩ := Gate.exists_carries id
      exact absurd ((Gate.refusesFormat_iff carries).2 ⟨v, broken⟩) (passes call carries)
  · intro d call loaded' _ _
    cases loaded.symm.trans loaded'
    refine ⟨rfl, rfl, v.rule, v.message, filter, started, rfl, ?_⟩
    exact fun other carries => Gate.refusedFor_of_broken carries broken
  · exact fun _ _ => ⟨rfl, rfl⟩

theorem foretells (asks : i.command = .checkId id) (named : i.options.NameLevel)
    (files : Files.System) (shown : String) (environment : Option String) :
    Foretells i id files shown environment (i.run files shown environment) := by
  cases loaded : Config.load files i.options.configPath shown with
  | error e => exact foretells_of_unloaded loaded
  | ok c =>
    obtain ⟨filter, started⟩ := exists_start named loaded environment
    cases judged : c.policy.check id with
    | ok _ => exact foretells_of_kept asks started judged
    | error v => exact foretells_of_broken asks started judged

end Invocation

/-- The question about an id and the gate, whatever the configuration, the id and the settings for
logs. -/
structure ToolForetellsGate : Prop where
  /-- Any id can be asked about, after any options. -/
  asked : ∀ (o : Options) (id : String),
    Invocation.parseAfter o ["check-id", "--", id] = some ⟨o, .checkId id⟩ ∧
      (isOption id = false → Invocation.parseAfter o ["check-id", id] = some ⟨o, .checkId id⟩)
  foretold : ∀ (i : Invocation) (id : String) (files : Files.System) (shown : String)
      (environment : Option String),
    i.command = .checkId id → i.options.NameLevel →
    Foretells i id files shown environment (i.run files shown environment)
  /-- Of the options and of the configuration only the format of ids decides; the level, the form of
  the records, the flag for debugging and the environment do not. -/
  aside : ∀ (i j : Invocation) (id : String) (files others : Files.System) (shown name : String)
      (environment other : Option String),
    i.command = .checkId id → j.command = .checkId id →
    i.options.NameLevel → j.options.NameLevel →
    (Config.load files i.options.configPath shown).toOption.map (·.deviceId) =
      (Config.load others j.options.configPath name).toOption.map (·.deviceId) →
    (i.run files shown environment).exitCode = (j.run others name other).exitCode ∧
      (i.run files shown environment).output = (j.run others name other).output

theorem tool_foretells_gate : ToolForetellsGate where
  asked o id := ⟨Invocation.parseAfter_checkId o id, Invocation.parseAfter_checkId_bare o⟩
  foretold _ _ files shown environment asks named :=
    Invocation.foretells asks named files shown environment
  aside i j id files others shown name environment other asks asks' named named' same := by
    have left := Invocation.answer_eq asks named files shown environment
    have right := Invocation.answer_eq asks' named' others name other
    rw [same, ← right] at left
    exact Prod.mk.inj left

end CommandLine

end DeviceAdmission
