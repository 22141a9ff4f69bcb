import DeviceAdmission.Digest.Sha256
import DeviceAdmission.Text.Hex

/-!
# Fingerprints

The SHA-256 digest that stands for a certificate. People write it as hexadecimal digits with or
without colons between them.
-/
namespace DeviceAdmission

/-- Thirty-two bytes. -/
structure Fingerprint where
  bytes : List UInt8
  length_bytes : bytes.length = 32
  deriving DecidableEq, Repr

namespace Fingerprint

def ofContent (content : List UInt8) : Fingerprint :=
  ⟨Digest.Sha256.digest content, Digest.Sha256.length_digest content⟩

def hex (f : Fingerprint) : String := Text.Hex.encode f.bytes

/-- Reads hexadecimal digits of either case, with colons anywhere; they must make up thirty-two
bytes. -/
def parse? (text : String) : Option Fingerprint :=
  match Text.Hex.bytes? (text.toList.filter (· != ':')) with
  | none => none
  | some bytes => if h : bytes.length = 32 then some ⟨bytes, h⟩ else none

end Fingerprint

end DeviceAdmission
