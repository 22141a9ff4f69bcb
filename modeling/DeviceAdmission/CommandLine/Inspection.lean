import DeviceAdmission.Certificate.X509
import DeviceAdmission.Json.Printer
import DeviceAdmission.Log.Record
import DeviceAdmission.Pem.Basic

/-!
# Inspection of certificates

A report on every certificate in a PEM file, as text or as JSON. There is a report only if all
blocks of the file can be read and all its certificates are well formed.
-/
namespace DeviceAdmission.CommandLine

/-- What the report says about a certificate. -/
structure Summary where
  fingerprint : Fingerprint
  subject : String
  commonName : Option String
  alternativeNames : List String

/-- Why there is no report. -/
inductive InspectionError where
  | malformedBlock (index : Nat) (fault : Pem.Fault)
  | malformedCertificate (defect : Certificate.Defect)
  | noCertificates

namespace Summary

def ofCertificate (c : Certificate) : Except Certificate.Defect Summary := do
  let subject ← c.subjectText
  let commonName ← c.commonName?
  let alternativeNames ← c.alternativeNames
  return ⟨c.fingerprint, subject, commonName, alternativeNames⟩

def lines (index : Nat) (s : Summary) : List String :=
  ["certificate #" ++ toString index,
    "  sha256: " ++ s.fingerprint.hex,
    "  subject: " ++ s.subject,
    "  subject CN: " ++ s.commonName.getD "(none)",
    "  SANs: " ++
      if s.alternativeNames.isEmpty then "(none)" else ", ".intercalate s.alternativeNames]

def toJson (index : Nat) (s : Summary) : Json :=
  .object
    [("index", .ofNat index), ("sha256", .text s.fingerprint.hex), ("subject", .text s.subject),
      ("common_name", (s.commonName.map Json.text).getD .null),
      ("subject_alt_names", .array (s.alternativeNames.map .text))]

end Summary

/-- The label of the blocks that hold certificates. -/
def certificateLabel : String := "CERTIFICATE"

/-- The record of a block that holds something else. -/
def passedOver (label : String) : Log.Record where
  level := .debug
  target := "fleetgate"
  message := "skipping non-certificate PEM block"
  fields := [("label", label)]

/-- The summaries of the certificates among blocks that are counted from an index, with the records
of the blocks passed over. The first fault ends it. -/
def summaries : Nat → List (Except Pem.Fault Pem.Block) →
    List Log.Record × Except InspectionError (List Summary)
  | _, [] => ([], .ok [])
  | index, .error fault :: _ => ([], .error (.malformedBlock index fault))
  | index, .ok block :: rest =>
    let (records, result) := summaries (index + 1) rest
    if block.label == certificateLabel then
      match Summary.ofCertificate ⟨block.octets⟩ with
      | .error defect => ([], .error (.malformedCertificate defect))
      | .ok s => (records, result.map (s :: ·))
    else (passedOver block.label :: records, result)

/-- The report on some certificates, numbered from zero. -/
def report (json : Bool) (ss : List Summary) : String :=
  if json then (Json.array (ss.mapIdx Summary.toJson)).renderIndented ++ "\n"
  else String.join ((ss.mapIdx Summary.lines).flatten.map (· ++ "\n"))

/-- Reports on the content of a file. -/
def inspect (json : Bool) (octets : List UInt8) :
    List Log.Record × Except InspectionError String :=
  let (records, result) := summaries 0 (Pem.blocks octets)
  match result with
  | .error e => (records, .error e)
  | .ok [] => (records, .error .noCertificates)
  | .ok ss => (records, .ok (report json ss))

end DeviceAdmission.CommandLine
