import DeviceAdmission.Config.Basic
import DeviceAdmission.Gate.Chain

/-!
# The standard gate

The gate of the fleet: the format check on the requests that devices send, then authentication. Both
are set up from a configuration.
-/
namespace DeviceAdmission.Gate

/-- The chain that a configuration asks for, in front of a delegate. -/
def standard (config : Config) (delegate : Delegate) : Chain :=
  [FormatCheck.stage DeviceId.Registry.fleet config.policy,
    Authentication.stage delegate config.authentication.denialDetail]

end DeviceAdmission.Gate
