import DeviceAdmission.Delegate.Basic

/-!
# Devices pinned to certificates

A register of devices, each with the fingerprint of its leaf certificate and possibly a list of the
methods it may call. As a delegate it accepts a caller that presents the certificate of the device
it claims to be.
-/
namespace DeviceAdmission.Delegate

structure PinnedDevice where
  deviceId : String
  fingerprint : Fingerprint
  /-- `none` allows every method. -/
  methods : Option (List String)
  deriving DecidableEq, Repr

structure PinRegistry where
  /-- At most one entry a device. -/
  devices : List PinnedDevice
  deriving DecidableEq, Repr

namespace PinRegistry

def empty : PinRegistry := ⟨[]⟩

def find? (r : PinRegistry) (deviceId : String) : Option PinnedDevice :=
  r.devices.find? (·.deviceId == deviceId)

/-- Puts an entry in place of an earlier one for the same device. -/
def put (r : PinRegistry) (device : PinnedDevice) : PinRegistry :=
  ⟨device :: r.devices.filter (·.deviceId != device.deviceId)⟩

/-- Pins a device that may call every method. -/
def pin (r : PinRegistry) (deviceId : String) (fingerprint : Fingerprint) : PinRegistry :=
  r.put ⟨deviceId, fingerprint, none⟩

/-- Pins a device that may call the methods of a list. -/
def pinWithMethods (r : PinRegistry) (deviceId : String) (fingerprint : Fingerprint)
    (methods : List String) : PinRegistry :=
  r.put ⟨deviceId, fingerprint, some methods⟩

/-- Forgets a device, and says whether it was pinned. -/
def revoke (r : PinRegistry) (deviceId : String) : Bool × PinRegistry :=
  ((r.find? deviceId).isSome, ⟨r.devices.filter (·.deviceId != deviceId)⟩)

def size (r : PinRegistry) : Nat := r.devices.length

def isEmpty (r : PinRegistry) : Bool := r.devices.isEmpty

/-- Whether a caller is the device that it claims to be and may call the method. -/
def judge (r : PinRegistry) (input : Input) : Except Failure Identity :=
  match r.find? input.deviceId with
  | none => .error (.unauthenticated "device is not registered")
  | some device =>
    match input.chain.leaf? with
    | none => .error (.unauthenticated "no leaf certificate")
    | some leaf =>
      if leaf.fingerprint != device.fingerprint then
        .error (.unauthenticated "certificate does not match registered device")
      else if device.methods.all (·.contains input.method) then
        .ok ((Identity.ofCall input.deviceId input.method).withClaim "fingerprint"
          (.text leaf.fingerprint.hex))
      else .error (.forbidden "method not allowed for device")

/-- The register as a delegate; it answers at once. -/
def delegate (r : PinRegistry) : Delegate := fun input => .now (r.judge input)

end PinRegistry

end DeviceAdmission.Delegate
