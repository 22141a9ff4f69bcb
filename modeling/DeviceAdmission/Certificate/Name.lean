import DeviceAdmission.Der.Basic
import DeviceAdmission.Text.Hex

/-!
# Distinguished names

A name is a list of groups of attributes, each with a type and a value. Its text shows every group
in order with the customary abbreviations of the types.
-/
namespace DeviceAdmission.Certificate

open Der (Octets)

structure Attribute where
  /-- The content of the type's object identifier. -/
  type : Octets
  value : Der.Element
  deriving DecidableEq, Repr

/-- Groups of attributes. -/
abbrev Name := List (List Attribute)

namespace Name

/-- One attribute; what follows the value inside is not looked at. -/
def readAttribute (octets : Octets) : Option (Attribute × Octets) :=
  match Der.readContainer Der.sequenceTag octets with
  | .error _ => none
  | .ok (content, rest) =>
    match Der.readPrimitive content with
    | .error _ => none
    | .ok (type, content) =>
      match Der.readElement content with
      | .error _ => none
      | .ok (value, _) => some (⟨type, value⟩, rest)

/-- One group, which has at least one attribute. -/
def readGroup (octets : Octets) : Option (List Attribute × Octets) :=
  match Der.readContainer Der.setTag octets with
  | .error _ => none
  | .ok (content, rest) =>
    let (attributes, _) := Der.readMany readAttribute content.length content
    if attributes.isEmpty then none else some (attributes, rest)

/-- A name; it ends before the first group that cannot be read. -/
def read (octets : Octets) : Except Der.Fault (Name × Octets) := do
  let (content, rest) ← Der.readContainer Der.sequenceTag octets
  return ((Der.readMany readGroup content.length content).1, rest)

/-! ## Types -/

/-- The names of attribute types by the contents of their identifiers. Of an identifier only its
proper encoding counts. -/
def typeNames : List (Octets × String) :=
  [([0x55, 0x04, 0x03], "CN"), ([0x55, 0x04, 0x06], "C"), ([0x55, 0x04, 0x07], "L"),
    ([0x55, 0x04, 0x08], "ST"), ([0x55, 0x04, 0x0a], "O"), ([0x55, 0x04, 0x0b], "OU"),
    ([0x09, 0x92, 0x26, 0x89, 0x93, 0xf2, 0x2c, 0x64, 0x01, 0x19], "DC"),
    ([0x2a, 0x86, 0x48, 0x86, 0xf7, 0x0d, 0x01, 0x09, 0x01], "Email"),
    ([0x55, 0x04, 0x00], "objectClass"), ([0x55, 0x04, 0x01], "aliasedEntryName"),
    ([0x55, 0x04, 0x02], "knowledgeInformation"), ([0x55, 0x04, 0x04], "surname"),
    ([0x55, 0x04, 0x05], "serialNumber"), ([0x55, 0x04, 0x09], "streetAddress"),
    ([0x55, 0x04, 0x0c], "title"), ([0x55, 0x04, 0x0d], "description"),
    ([0x55, 0x04, 0x0e], "searchGuide"), ([0x55, 0x04, 0x0f], "businessCategory"),
    ([0x55, 0x04, 0x10], "postalAddress"), ([0x55, 0x04, 0x11], "postalCode"),
    ([0x55, 0x04, 0x29], "name"), ([0x55, 0x04, 0x2a], "givenName"),
    ([0x55, 0x04, 0x2b], "initials"), ([0x55, 0x04, 0x2c], "generationQualifier"),
    ([0x55, 0x04, 0x2d], "uniqueIdentifier"), ([0x55, 0x04, 0x2e], "dnQualifier"),
    ([0x09, 0x92, 0x26, 0x89, 0x93, 0xf2, 0x2c, 0x64, 0x01, 0x01], "uid"),
    ([0x2a, 0x86, 0x48, 0x86, 0xf7, 0x0d, 0x01, 0x09, 0x02], "unstructuredName"),
    ([0x2a, 0x86, 0x48, 0x86, 0xf7, 0x0d, 0x01, 0x09, 0x07], "challengePassword"),
    ([0x2b, 0x06, 0x01, 0x04, 0x01, 0x82, 0x37, 0x3c, 0x02, 0x01, 0x01],
      "msJurisdictionLocality"),
    ([0x2b, 0x06, 0x01, 0x04, 0x01, 0x82, 0x37, 0x3c, 0x02, 0x01, 0x02],
      "msJurisdictionStateOrProvince"),
    ([0x2b, 0x06, 0x01, 0x04, 0x01, 0x82, 0x37, 0x3c, 0x02, 0x01, 0x03],
      "msJurisdictionCountry")]

/-- The name of a type, or its identifier. -/
def typeText (type : Octets) : String :=
  (typeNames.lookup type).getD ("OID(" ++ Der.dotted type ++ ")")

/-! ## Values -/

def utf8? (octets : Octets) : Option String := String.fromUTF8? ⟨octets.toArray⟩

/-- Octets as sixteen-bit units, big end first; a last single octet is a unit. -/
def units16 : Octets → List Nat
  | a :: b :: rest => (256 * a.toNat + b.toNat) :: units16 rest
  | [a] => [a.toNat]
  | [] => []

/-- The characters of sixteen-bit units; surrogates must come in pairs. -/
def decode16 : List Nat → Option (List Char)
  | [] => some []
  | u :: rest =>
    if 0xD800 ≤ u && u ≤ 0xDBFF then
      match rest with
      | [] => none
      | v :: rest =>
        if 0xDC00 ≤ v && v ≤ 0xDFFF then
          (decode16 rest).map
            (Char.ofNat (0x10000 + (u - 0xD800) * 0x400 + (v - 0xDC00)) :: ·)
        else none
    else if 0xDC00 ≤ u && u ≤ 0xDFFF then none
    else (decode16 rest).map (Char.ofNat u :: ·)

/-- The characters of thirty-two-bit units, big end first. -/
def decode32 : Octets → Option (List Char)
  | [] => some []
  | a :: b :: c :: d :: rest =>
    if (Der.bigEndian [a, b, c, d]).isValidChar then
      (decode32 rest).map (Char.ofNat (Der.bigEndian [a, b, c, d]) :: ·)
    else none
  | _ => none

/-- Upper-case digits of octets. -/
def upperHex (octets : Octets) : String :=
  String.join (octets.map fun b => Text.Hex.upperPadded 2 b.toNat)

/-- The tags of strings whose octets are read as UTF-8. -/
def octetStringTags : List Nat := [18, 26, 19, 27, 7, 25, 20, 21, 12, 22]

/-- The text of a value: strings are decoded, everything else is shown in digits. -/
def valueText? (value : Der.Element) : Option String :=
  let tag := value.header.tag
  if octetStringTags.contains tag then utf8? value.content
  else if tag == 30 then (decode16 (units16 value.content)).map String.ofList
  else if tag == 28 then (decode32 value.content).map String.ofList
  else some (upperHex value.content)

/-- The text that stands for a name with a value that cannot be decoded. -/
def invalid : String := "<X509Error: Invalid X.509 name>"

/-- The text of an attribute: its type and its value. -/
def attributeText? (a : Attribute) : Option String :=
  (valueText? a.value).map fun v => typeText a.type ++ "=" ++ v

def groupText? (attributes : List Attribute) : Option String :=
  (attributes.mapM attributeText?).map (" + ".intercalate ·)

/-- The text of a name, groups in their order. -/
def text (name : Name) : String :=
  match name.mapM groupText? with
  | some groups => ", ".intercalate groups
  | none => invalid

/-- The identifier of the common name, 2.5.4.3. -/
def commonNameType : Octets := [0x55, 0x04, 0x03]

/-- The tags of strings that a common name is read from. -/
def commonNameTags : List Nat := [18, 19, 12, 22]

/-- The first common name that is readable text. -/
def commonName? (name : Name) : Option String :=
  name.flatten.findSome? fun a =>
    if a.type == commonNameType && commonNameTags.contains a.value.header.tag then
      utf8? a.value.content
    else none

end Name

end DeviceAdmission.Certificate
