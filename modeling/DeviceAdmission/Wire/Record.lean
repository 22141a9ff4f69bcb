import DeviceAdmission.Wire.Shape

/-!
# Records while they are read, and what a document may do wrong

`Fields.Slots` holds what has been read of a record so far; `Fields.finish` closes it. A mismatch is
a well-formed document that does not have the shape; its wording is the same in every format.
-/
namespace DeviceAdmission.Wire

/-- How a well-formed document misses the shape. -/
inductive Mismatch where
  | wrongType (found expected : String)
  | wrongValue (found expected : String)
  | unknownVariant (text : String) (labels : List String)
  | unregistered (complaint text : String)
  | missingField (key : String)
  | duplicateField (key : String)
  | unknownField (key : String) (keys : List String)
  | wrongLength (found : Nat) (expected : String)
  deriving DecidableEq, Repr

/-- A name in back quotes. -/
def quoteName (name : String) : String := "`" ++ name ++ "`"

/-- The alternatives of a closed set of names. -/
def alternatives (none : String) : List String → String
  | [] => none
  | [a] => "expected " ++ quoteName a
  | [a, b] => "expected " ++ quoteName a ++ " or " ++ quoteName b
  | names => "expected one of " ++ ", ".intercalate (names.map quoteName)

def Mismatch.message : Mismatch → String
  | .wrongType found expected => "invalid type: " ++ found ++ ", expected " ++ expected
  | .wrongValue found expected => "invalid value: " ++ found ++ ", expected " ++ expected
  | .unknownVariant text labels =>
    "unknown variant " ++ quoteName text ++ ", " ++ alternatives "there are no variants" labels
  | .unregistered complaint text => complaint ++ text
  | .missingField key => "missing field " ++ quoteName key
  | .duplicateField key => "duplicate field " ++ quoteName key
  | .unknownField key keys =>
    "unknown field " ++ quoteName key ++ ", " ++ alternatives "there are no fields" keys
  | .wrongLength found expected =>
    "invalid length " ++ toString found ++ ", expected " ++ expected

/-- How many elements a record has when it is written as a list. -/
def elementCount (name : String) (fields : Fields) : String :=
  let n := fields.keys.length
  "struct " ++ name ++ " with " ++ toString n ++ (if n == 1 then " element" else " elements")

namespace Fields

/-- What has been read of each field. An optional field read as null holds `some none`. -/
def Slots : Fields → Type
  | .done => Unit
  | .required _ shape rest => Option shape.Carrier × rest.Slots
  | .defaulted _ shape rest => Option shape.Carrier × rest.Slots
  | .optional _ _ shape rest => Option (Option shape.Carrier) × rest.Slots

def empty : (fs : Fields) → fs.Slots
  | .done => ()
  | .required _ _ rest => (none, rest.empty)
  | .defaulted _ _ rest => (none, rest.empty)
  | .optional _ _ _ rest => (none, rest.empty)

/-- Closes a record; the first required field that was not read is missing. -/
def finish : (fs : Fields) → fs.Slots → Except Mismatch fs.Carrier
  | .done, _ => .ok ()
  | .required key _ rest, (slot, slots) =>
    match slot with
    | none => .error (.missingField key)
    | some v => (rest.finish slots).map fun vs => (v, vs)
  | .defaulted _ _ rest, (slot, slots) => (rest.finish slots).map fun vs => (slot, vs)
  | .optional _ _ _ rest, (slot, slots) => (rest.finish slots).map fun vs => (slot.join, vs)

end Fields

/-- The index of a name in a list of names. -/
def indexOf? (text : String) : (names : List String) → Option (Fin names.length)
  | [] => none
  | name :: rest =>
    if name == text then some ⟨0, Nat.zero_lt_succ _⟩ else (indexOf? text rest).map Fin.succ

end DeviceAdmission.Wire
