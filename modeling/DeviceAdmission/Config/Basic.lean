import DeviceAdmission.Gate.Stage
import DeviceAdmission.Log.Level
import DeviceAdmission.Text.Quoted
import DeviceAdmission.Wire.Labelled
import DeviceAdmission.Wire.Shape
import DeviceAdmission.Yaml.Writer

/-!
# The configuration of the gate

What an operator can set, with defaults for everything, its written form, and the check that a
configuration must pass before it is used.
-/
namespace DeviceAdmission

open Wire (Form Shape Fields Labelled)

/-- The format of device ids. -/
structure DeviceIdConfig where
  /-- The greatest length of an id. -/
  maxLength : UInt64 := 256
  /-- Characters refused on top of the built-in ones. -/
  extraForbidden : String := ""
  deriving DecidableEq, Repr

structure AuthenticationConfig where
  denialDetail : Gate.DenialDetail := .forward
  deriving DecidableEq, Repr

structure LoggingConfig where
  level : String := "info"
  /-- Whether records are written as JSON. -/
  json : Bool := false
  deriving DecidableEq, Repr

structure Config where
  deviceId : DeviceIdConfig := {}
  authentication : AuthenticationConfig := {}
  logging : LoggingConfig := {}
  deriving DecidableEq, Repr

/-! ## Written form -/

namespace DeviceIdConfig

def form : Form DeviceIdConfig where
  shape := .record "DeviceIdConfig" true <|
    .defaulted "max_len" (.whole .size) <| .defaulted "extra_forbidden" .text .done
  toCarrier c := (some c.maxLength, some c.extraForbidden, ())
  ofCarrier := fun (maxLength, extraForbidden, _) =>
    ⟨maxLength.getD (256 : UInt64), extraForbidden.getD ""⟩

end DeviceIdConfig

namespace AuthenticationConfig

def detailLabel : Gate.DenialDetail → String
  | .forward => "forward"
  | .generic => "generic"

def details : Labelled Gate.DenialDetail where
  values := [.forward, .generic]
  label := detailLabel
  complete detail := by cases detail <;> decide

def form : Form AuthenticationConfig where
  shape := .record "AuthnConfig" true <| .defaulted "denial_detail" (.choice details.labels) .done
  toCarrier c := (some (details.toIndex c.denialDetail), ())
  ofCarrier := fun (detail, _) => ⟨(detail.map details.ofIndex).getD .forward⟩

end AuthenticationConfig

namespace LoggingConfig

def form : Form LoggingConfig where
  shape := .record "LoggingConfig" true <|
    .defaulted "level" .text <| .defaulted "json" .flag .done
  toCarrier c := (some c.level, some c.json, ())
  ofCarrier := fun (level, json, _) => ⟨level.getD "info", json.getD false⟩

end LoggingConfig

namespace Config

def form : Form Config where
  shape := .record "GateConfig" true <|
    .defaulted "device_id" DeviceIdConfig.form.shape <|
    .defaulted "authn" AuthenticationConfig.form.shape <|
    .defaulted "logging" LoggingConfig.form.shape .done
  toCarrier c :=
    (some (DeviceIdConfig.form.toCarrier c.deviceId),
      some (AuthenticationConfig.form.toCarrier c.authentication),
      some (LoggingConfig.form.toCarrier c.logging), ())
  ofCarrier := fun (deviceId, authentication, logging, _) =>
    ⟨(deviceId.map DeviceIdConfig.form.ofCarrier).getD {},
      (authentication.map AuthenticationConfig.form.ofCarrier).getD {},
      (logging.map LoggingConfig.form.ofCarrier).getD {}⟩

def toJson (c : Config) : Json := form.encode c

/-- The configuration as a YAML document. -/
def toYaml (c : Config) : String :=
  Yaml.writeMembers 0
    [("device_id", .mapping
      [("max_len", .word (toString c.deviceId.maxLength.toNat)),
        ("extra_forbidden", .text c.deviceId.extraForbidden)]),
      ("authn", .mapping
        [("denial_detail", .text (AuthenticationConfig.detailLabel c.authentication.denialDetail))]),
      ("logging", .mapping
        [("level", .text c.logging.level),
          ("json", .word (Text.Diagnostic.bool c.logging.json))])]

/-! ## The check -/

/-- What is wrong with a configuration. -/
inductive Violation where
  | maxLength (given : Nat)
  | level (text : String)
  deriving DecidableEq, Repr

def Violation.message : Violation → String
  | .maxLength given =>
    "device_id.max_len must lie in 1..=" ++ toString DeviceId.maxLength ++ ", got " ++
      toString given
  | .level text => "logging.level " ++ Text.Quoted.text text ++ " is not a log level"

/-- The greatest length must not loosen the built-in limit, and the level must be one. -/
def check (c : Config) : Except Violation Unit :=
  let given := c.deviceId.maxLength.toNat
  if given < 1 || DeviceId.maxLength < given then .error (.maxLength given)
  else if (Log.Level.parse? c.logging.level).isNone then .error (.level c.logging.level)
  else .ok ()

/-- The format policy that the configuration asks for. -/
def policy (c : Config) : DeviceId.Policy :=
  (DeviceId.Policy.ofLimit c.deviceId.maxLength.toNat).forbid c.deviceId.extraForbidden.toList

end Config

end DeviceAdmission
