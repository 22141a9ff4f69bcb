import DeviceAdmission.CommandLine.Inspection
import DeviceAdmission.CommandLine.Invocation
import DeviceAdmission.Config.Load
import DeviceAdmission.Log.Filter

/-!
# The operator's tool

Checks device ids against the configured policy, reports on certificates, and shows the
configuration in use. It starts only with a valid configuration and log level. What a command prints
is its output; log records and errors are reported apart from it.
-/
namespace DeviceAdmission.CommandLine

/-- Why a command fails. -/
inductive CommandError where
  | invalidId (violation : DeviceId.Violation)
  | unreadable (path : String) (e : Files.ReadError)
  | inspection (path : String) (e : InspectionError)

namespace CommandError

def message : CommandError → String
  | .invalidId v => "invalid (" ++ v.rule ++ "): " ++ v.message
  | .unreadable path e => "Failed to read " ++ path ++ ": " ++ e.message
  | .inspection _ (.malformedBlock index fault) =>
    "Malformed PEM block #" ++ toString index ++ ": " ++ fault.message
  | .inspection _ (.malformedCertificate defect) => defect.message
  | .inspection path .noCertificates => "no certificates found in " ++ path

end CommandError

/-- Why the tool does not start. -/
inductive StartError where
  | config (e : Config.LoadError)
  | level (e : Log.Filter.LevelError)

namespace StartError

def message : StartError → String
  | .config e => e.message
  | .level e => e.message

def reason? : StartError → Option String
  | .config e => e.reason?
  | .level e => some e.reason

/-- The error, and its reason with every line indented. -/
def text (e : StartError) : String :=
  let reason := match e.reason? with
    | some reason => "\n\nCaused by:\n    " ++ reason.replace "\n" "\n    "
    | none => ""
  "Error: " ++ e.message ++ reason ++ "\n"

end StartError

/-- The name and the version of the tool. -/
def versionText : String := "fleetgate 0.1.0"

namespace Command

/-- Runs a command. Gives its log records, and its output unless it fails. -/
def run (files : Files.System) (config : Config) :
    Command → List Log.Record × Except CommandError String
  | .checkId id =>
    match config.policy.check id with
    | .ok _ => ([], .ok "valid\n")
    | .error v => ([], .error (.invalidId v))
  | .inspectCertificates path json =>
    match files.read path with
    | .error e => ([], .error (.unreadable path e))
    | .ok octets =>
      let (records, result) := inspect json octets
      (records, result.mapError (.inspection path))
  | .showConfig => ([], .ok config.toYaml)
  | .showVersion => ([], .ok (versionText ++ "\n"))

end Command

/-- How the tool ends: its exit status, what it prints, and what it reports. -/
structure Outcome where
  exitCode : Nat
  output : String
  report : String
  deriving DecidableEq, Repr

/-- The record of a configuration in use. -/
def configLoaded (path : Option String) : Log.Record where
  level := .debug
  target := "fleetgate"
  message := "configuration loaded"
  fields := [("config", Text.Diagnostic.option (path.map Text.Quoted.path))]

/-- The record of a command that failed. -/
def commandFailed (e : CommandError) : Log.Record where
  level := .error
  target := "fleetgate"
  message := "Command failed: " ++ e.message

/-- The lines of the records that a filter lets through. -/
def journal (filter : Log.Filter) (json : Bool) (records : List Log.Record) : String :=
  let passing := records.filter fun r => filter.passes r.level r.target r.fieldNames
  String.join (passing.map fun r => (if json then r.jsonLine else r.line) ++ "\n")

namespace Invocation

/-- The configuration and the log filter that an invocation starts with. -/
def start (i : Invocation) (files : Files.System) (defaultShown : String)
    (environment : Option String) : Except StartError (Config × Log.Filter) := do
  let config ← (Config.load files i.options.configPath defaultShown).mapError .config
  let level := i.options.logLevel.getD config.logging.level
  let filter ← (Log.Filter.ofSettings level i.options.debug environment).mapError .level
  return (config, filter)

/-- Runs an invocation. `defaultShown` is the name of the default configuration file in messages,
and `environment` the log filter that the environment asks for. -/
def run (i : Invocation) (files : Files.System) (defaultShown : String)
    (environment : Option String) : Outcome :=
  match i.start files defaultShown environment with
  | .error e => ⟨1, "", e.text⟩
  | .ok (config, filter) =>
    let (records, result) := i.command.run files config
    let journal (last : List Log.Record) : String :=
      journal filter config.logging.json (configLoaded i.options.configPath :: records ++ last)
    match result with
    | .ok output => ⟨0, output, journal []⟩
    | .error e => ⟨1, "", journal [commandFailed e]⟩

end Invocation

end DeviceAdmission.CommandLine
