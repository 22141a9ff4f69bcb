import DeviceAdmission.Certificate.Basic
import DeviceAdmission.Certificate.GeneralName
import DeviceAdmission.Certificate.Time

/-!
# The names in an X.509 certificate

A certificate is walked from its outer sequence to its signature; what is kept is the subject and
the extensions. Everything on the way must be well formed, and the first part that is not gives the
defect. Octets after the certificate do not matter.
-/
namespace DeviceAdmission.Certificate

open Der (Octets)

/-- What is wrong with a certificate. -/
inductive Defect where
  | der (fault : Der.Fault)
  | version | serial | algorithm | date | publicKey | issuerId | subjectId | extensions | signature
  deriving DecidableEq, Repr

namespace Defect

/-- The text of a defect in the encoding or in a part. -/
def reason : Defect → String
  | .der (.incomplete n) => "Parsing requires " ++ toString n ++ " bytes/chars"
  | .der .endOfContent => "Parsing Error: NomError(Eof)"
  | .der (.unexpectedTag expected actual) =>
    "Parsing Error: Der(UnexpectedTag \x7b expected: Some(Tag(" ++ toString expected ++
      ")), actual: Tag(" ++ toString actual ++ ") \x7d)"
  | .der .badTag => "Parsing Error: Der(InvalidTag)"
  | .der .badLength => "Parsing Error: Der(InvalidLength)"
  | .der .indefiniteLength => "Parsing Error: Der(DerConstraintFailed(IndefiniteLength))"
  | .der .constructed => "Parsing Error: Der(ConstructUnexpected)"
  | .version => "Parsing Error: InvalidVersion"
  | .serial => "Parsing Error: InvalidSerial"
  | .algorithm => "Parsing Error: InvalidAlgorithmIdentifier"
  | .date => "Parsing Error: InvalidDate"
  | .publicKey => "Parsing Error: InvalidSPKI"
  | .issuerId => "Parsing Error: InvalidIssuerUID"
  | .subjectId => "Parsing Error: InvalidSubjectUID"
  | .extensions => "Parsing Error: InvalidExtensions"
  | .signature => "Parsing Error: InvalidSignatureValue"

def message (d : Defect) : String := "malformed certificate: " ++ d.reason

end Defect

structure Extension where
  /-- The content of the object identifier. -/
  id : Octets
  value : Octets
  deriving DecidableEq, Repr

/-- What is kept of a certificate. -/
structure Contents where
  subject : Name
  extensions : List Extension
  deriving DecidableEq, Repr

namespace Contents

/-- A reader of elements as a reader of parts. -/
def lift {α : Type} (r : Except Der.Fault (α × Octets)) : Except Defect (α × Octets) :=
  r.mapError .der

/-- A step that has one defect, however it fails. -/
def orDefect (d : Defect) : Option Octets → Except Defect Octets
  | some rest => .ok rest
  | none => .error d

/-- Whether octets start with a whole number of at most thirty-two bits that is not negative and has
no octet too many. -/
def isShortNumber (octets : Octets) : Bool :=
  match Der.readElement octets with
  | .error _ => false
  | .ok (e, _) =>
    e.header.tag == 2 && !e.header.isConstructed &&
      match e.content with
      | [] => false
      | [b] => b.toNat < 128
      | a :: b :: rest =>
        if a == 0 then 128 ≤ b.toNat && rest.length ≤ 3 else a.toNat < 128 && rest.length ≤ 2

/-- The version is optional, in a context tag of its own. -/
def skipVersion (octets : Octets) : Except Defect Octets := do
  if octets.isEmpty then return octets
  let (e, rest) ← lift (Der.readElement octets)
  if e.header.tagClass == Der.contextClass && e.header.tag == 0 then
    if isShortNumber e.content then return rest else .error .version
  else return octets

def skipSerial (octets : Octets) : Except Defect Octets :=
  match Der.readElement octets with
  | .ok (e, rest) => if e.header.tag == 2 then .ok rest else .error .serial
  | .error _ => .error .serial

/-- An object identifier and optional parameters in a sequence. -/
def skipAlgorithm (octets : Octets) : Except Defect Octets := do
  let (e, rest) ← lift (Der.readElement octets)
  if e.header.tag != Der.sequenceTag then
    .error (.der (.unexpectedTag Der.sequenceTag e.header.tag))
  else
    let parameters ← match Der.readPrimitive e.content with
      | .ok (_, parameters) => .ok parameters
      | .error (.incomplete n) => .error (.der (.incomplete n))
      | .error _ => .error .algorithm
    if !parameters.isEmpty then
      let _ ← lift (Der.readElement parameters)
    return rest

/-- Two times in a sequence. -/
def skipValidity (octets : Octets) : Except Defect Octets := do
  let (content, rest) ← lift (Der.readContainer Der.sequenceTag octets)
  let content ← orDefect .date (Time.skip? content)
  let _ ← orDefect .date (Time.skip? content)
  return rest

def skipPublicKey (octets : Octets) : Except Defect Octets := do
  let (content, rest) ← lift (Der.readContainer Der.sequenceTag octets)
  let content ← skipAlgorithm content
  let _ ← orDefect .publicKey (Der.skipBitString content)
  return rest

/-- An optional bit string in a context tag. -/
def skipUniqueId (tag : Nat) (d : Defect) (octets : Octets) : Except Defect Octets :=
  if octets.isEmpty then .ok octets
  else match Der.readHeader octets with
    | .error _ => .error d
    | .ok (header, _) =>
      if header.tag != tag then .ok octets
      else match Der.readElement octets with
        | .ok (e, rest) =>
          if e.header.tagClass == Der.contextClass && Der.isBitContent e then .ok rest
          else .error d
        | .error _ => .error d

/-- Skips an optional flag. -/
def skipFlag (octets : Octets) : Octets :=
  match Der.readElement octets with
  | .ok (e, rest) => if e.header.tag == 1 && e.content.length == 1 then rest else octets
  | .error _ => octets

/-- An identifier, an optional flag and a value in octets. -/
def readExtension (octets : Octets) : Option (Extension × Octets) :=
  match Der.readContainer Der.sequenceTag octets with
  | .error _ => none
  | .ok (content, rest) =>
    match Der.readPrimitive content with
    | .error _ => none
    | .ok (id, content) =>
      match Der.readElement (skipFlag content) with
      | .error _ => none
      | .ok (e, _) =>
        if e.header.tag == 4 && !e.header.isConstructed then some (⟨id, e.content⟩, rest) else none

/-- The extensions fill the rest of the octets, after a tag of their own. -/
def readExtensions (octets : Octets) : Except Defect (List Extension) := do
  if octets.isEmpty then return []
  match Der.readHeader octets with
  | .error _ => .error .extensions
  | .ok (header, rest) =>
    if header.tag != 3 then .error .extensions
    else
      let (content, rest) ← lift (Der.readContainer Der.sequenceTag rest)
      let (extensions, left) := Der.readMany readExtension content.length content
      if left.isEmpty && rest.isEmpty then return extensions else .error (.der .endOfContent)

/-- Walks a whole certificate. -/
def read (der : Octets) : Except Defect Contents := do
  let (outer, _) ← lift (Der.readContainer Der.sequenceTag der)
  let (inner, afterInner) ← lift (Der.readContainer Der.sequenceTag outer)
  let octets ← skipVersion inner
  let octets ← skipSerial octets
  let octets ← skipAlgorithm octets
  let (_, octets) ← lift (Name.read octets)
  let octets ← skipValidity octets
  let (subject, octets) ← lift (Name.read octets)
  let octets ← skipPublicKey octets
  let octets ← skipUniqueId 1 .issuerId octets
  let octets ← skipUniqueId 2 .subjectId octets
  let extensions ← readExtensions octets
  let octets ← skipAlgorithm afterInner
  let _ ← orDefect .signature (Der.skipBitString octets)
  return ⟨subject, extensions⟩

/-! ## Alternative names -/

/-- The identifier of the extension with alternative names, 2.5.29.17. -/
def alternativeNamesId : Octets := [0x55, 0x1d, 0x11]

/-- The names in an extension with alternative names; a malformed one has none. -/
def generalNames (e : Extension) : List GeneralName :=
  if e.id != alternativeNamesId then []
  else match Der.readContainer Der.sequenceTag e.value with
    | .error _ => []
    | .ok (content, _) =>
      let (names, left) := Der.readMany GeneralName.read content.length content
      if left.isEmpty then names else []

/-- The texts of the alternative names in order. -/
def alternativeNames (c : Contents) : List String :=
  GeneralName.texts (c.extensions.flatMap generalNames)

end Contents

def contents (c : Certificate) : Except Defect Contents := Contents.read c.der

/-- The first common name of the subject that is readable text. -/
def commonName? (c : Certificate) : Except Defect (Option String) :=
  c.contents.map fun contents => contents.subject.commonName?

/-- The text of the subject. -/
def subjectText (c : Certificate) : Except Defect String :=
  c.contents.map fun contents => contents.subject.text

def alternativeNames (c : Certificate) : Except Defect (List String) :=
  c.contents.map Contents.alternativeNames

end DeviceAdmission.Certificate
