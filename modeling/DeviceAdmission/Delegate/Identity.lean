import DeviceAdmission.Wire.FromJson

/-!
# Established identities

What a delegate says of a caller it accepts: the device, the method, and claims that the gate passes
on without looking into them.
-/
namespace DeviceAdmission

structure Identity where
  deviceId : String
  method : String
  /-- Ascending by key. -/
  claims : List (String × Json)

namespace Identity

def ofCall (deviceId method : String) : Identity := ⟨deviceId, method, []⟩

def withClaim (i : Identity) (key : String) (value : Json) : Identity :=
  { i with claims := Json.insert key value i.claims }

def claim? (i : Identity) (key : String) : Option Json := Json.lookup i.claims key

/-- The wire form; the claims may be left out and are then empty. -/
def form : Wire.Form Identity where
  shape := .record "AuthenticatedCall" false <|
    .required "device_id" .text <| .required "full_method" .text <|
    .defaulted "claims" .table .done
  toCarrier i := (i.deviceId, i.method, some i.claims, ())
  ofCarrier := fun (deviceId, method, claims, _) => ⟨deviceId, method, claims.getD []⟩

def toJson (i : Identity) : Json := form.encode i

def parse (text : String) : Except Wire.ReadError Identity := form.parse text

end Identity

end DeviceAdmission
