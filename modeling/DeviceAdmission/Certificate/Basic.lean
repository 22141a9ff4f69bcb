import DeviceAdmission.Certificate.Fingerprint
import DeviceAdmission.Text.Diagnostic

/-!
# Certificates and chains

A certificate is the encoding that the peer presented; nothing here verifies it, as the transport
did before the call reached the gate. A chain lists the leaf first.
-/
namespace DeviceAdmission

structure Certificate where
  der : List UInt8
  deriving DecidableEq, Repr

namespace Certificate

def fingerprint (c : Certificate) : Fingerprint := .ofContent c.der

open Text (Diagnostic.record Diagnostic.list Diagnostic.wrapped Quoted.text)

/-- The length and the fingerprint; the content is not shown. -/
def diagnostic (c : Certificate) : String :=
  Diagnostic.record "Certificate"
    [("len", toString c.der.length), ("sha256", Quoted.text c.fingerprint.hex)]

/-- Certificates in the order presented, the leaf first. -/
abbrev Chain := List Certificate

def Chain.leaf? (chain : Chain) : Option Certificate := chain.head?

def Chain.diagnostic (chain : Chain) : String :=
  Diagnostic.wrapped "PeerCertificateChain" (Diagnostic.list (chain.map Certificate.diagnostic))

end Certificate

end DeviceAdmission
