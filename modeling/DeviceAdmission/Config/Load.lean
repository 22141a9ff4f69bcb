import DeviceAdmission.Config.Basic
import DeviceAdmission.Files.Basic
import DeviceAdmission.Wire.FromYaml

/-!
# Loading a configuration

From a text, from a named file that must exist, or from the default file if there is one. What is
loaded has passed the check.
-/
namespace DeviceAdmission.Config

/-- Why no configuration could be loaded. -/
inductive LoadError where
  | read (path : String) (e : Files.ReadError)
  | parse (path : String) (e : Wire.YamlError)
  | invalid (v : Violation)
  deriving DecidableEq, Repr

namespace LoadError

/-- What was tried, without the reason. -/
def message : LoadError → String
  | .read path e => "failed to read config file " ++ path ++ ": " ++ e.message
  | .parse path e => "failed to parse config file " ++ path ++ ": " ++ e.message
  | .invalid v => "invalid configuration: " ++ v.message

/-- The reason behind the error, if it has one of its own. -/
def reason? : LoadError → Option String
  | .read _ e => some e.message
  | .parse _ e => some e.message
  | .invalid _ => none

end LoadError

/-- Reads and checks a text that stands for a file. -/
def ofText (path text : String) : Except LoadError Config :=
  match form.parseYaml text with
  | .error e => .error (.parse path e)
  | .ok c =>
    match c.check with
    | .ok _ => .ok c
    | .error v => .error (.invalid v)

/-- How a text without a file is named. -/
def inlineName : String := "<inline>"

def ofYaml (text : String) : Except LoadError Config := ofText inlineName text

/-- Loads a file; `shown` is its name in messages. -/
def ofFile (files : Files.System) (path shown : String) : Except LoadError Config :=
  match files.readText path with
  | .error e => .error (.read shown e)
  | .ok text => ofText shown text

/-- The default file, in the directory for configurations. -/
def defaultPath : String := "fleetgate/gate.yaml"

/-- Loads the file given, or else the default file if it exists. Without either the defaults hold;
`defaultShown` is the name of the default file in messages. -/
def load (files : Files.System) (path : Option String) (defaultShown : String) :
    Except LoadError Config :=
  match path with
  | some path => ofFile files path path
  | none => if files.exists? defaultPath then ofFile files defaultPath defaultShown else .ok {}

end DeviceAdmission.Config
