import DeviceAdmission.Call.Context
import DeviceAdmission.Failure.Basic

/-!
# Delegates

The delegate has the last word on a caller. It is given the method, the claimed device id and the
peer's chain; it answers after some time, or never.
-/
namespace DeviceAdmission

namespace Delegate

/-- What a delegate decides on. -/
structure Input where
  method : String
  deviceId : String
  chain : Certificate.Chain
  deriving DecidableEq, Repr

open Text (Diagnostic.record Quoted.text)

def Input.diagnostic (input : Input) : String :=
  Diagnostic.record "DeviceAuthnInput"
    [("full_method", Quoted.text input.method), ("device_id", Quoted.text input.deviceId),
      ("chain", input.chain.diagnostic)]

/-- An answer and the time that it takes; without a time it never comes. -/
structure Answer where
  verdict : Except Failure Identity
  delay : Option Call.Duration

/-- An answer that is there at once. -/
def Answer.now (verdict : Except Failure Identity) : Answer := ⟨verdict, some 0⟩

end Delegate

abbrev Delegate := Delegate.Input → Delegate.Answer

end DeviceAdmission
