import DeviceAdmission.Certificate.X509
import DeviceAdmission.Delegate.Basic

/-!
# Devices named by their certificates

A delegate for fleets whose certificates carry the device id as the common name of the subject.
-/
namespace DeviceAdmission.Delegate.CommonName

/-- Whether the leaf names the claimed device. -/
def judge (input : Input) : Except Failure Identity :=
  match input.chain.leaf? with
  | none => .error (.unauthenticated "no leaf certificate")
  | some leaf =>
    match leaf.commonName? with
    | .error d => .error (.unauthenticated d.message)
    | .ok none => .error (.unauthenticated "leaf certificate has no subject common name")
    | .ok (some name) =>
      if name != input.deviceId then
        .error (.unauthenticated "certificate subject does not match device id")
      else
        .ok (((Identity.ofCall input.deviceId input.method).withClaim "subject_cn"
          (.text name)).withClaim "fingerprint" (.text leaf.fingerprint.hex))

/-- It answers at once. -/
def delegate : Delegate := fun input => .now (judge input)

end DeviceAdmission.Delegate.CommonName
