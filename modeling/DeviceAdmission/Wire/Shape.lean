import DeviceAdmission.Json.Basic

/-!
# Shapes of records on the wire

A shape describes what a document may hold in one place; its carrier is the type of what is read
there. One description serves every reader and the writer: `encode` is the only way out, and each
format brings a reader for all shapes.
-/
namespace DeviceAdmission.Wire

/-- Whole numbers of a fixed range. -/
inductive Width where
  | unsigned16 | signed32 | unsigned32 | unsigned64 | size
  deriving DecidableEq, Repr

namespace Width

abbrev Carrier : Width → Type
  | .unsigned16 => UInt16
  | .signed32 => Int32
  | .unsigned32 => UInt32
  | .unsigned64 => UInt64
  | .size => UInt64

def name : Width → String
  | .unsigned16 => "u16"
  | .signed32 => "i32"
  | .unsigned32 => "u32"
  | .unsigned64 => "u64"
  | .size => "usize"

def toInt : (w : Width) → w.Carrier → Int
  | .unsigned16, n => n.toNat
  | .signed32, n => n.toInt
  | .unsigned32, n => n.toNat
  | .unsigned64, n => n.toNat
  | .size, n => n.toNat

/-- The least and the greatest value. -/
def range : Width → Int × Int
  | .unsigned16 => (0, 0xFFFF)
  | .signed32 => (-0x8000_0000, 0x7FFF_FFFF)
  | .unsigned32 => (0, 0xFFFF_FFFF)
  | .unsigned64 => (0, 0xFFFF_FFFF_FFFF_FFFF)
  | .size => (0, 0xFFFF_FFFF_FFFF_FFFF)

def ofInt : (w : Width) → Int → w.Carrier
  | .unsigned16, n => UInt16.ofNat n.toNat
  | .signed32, n => Int32.ofInt n
  | .unsigned32, n => UInt32.ofNat n.toNat
  | .unsigned64, n => UInt64.ofNat n.toNat
  | .size, n => UInt64.ofNat n.toNat

/-- A number out of range is refused, never wrapped. -/
def ofInt? (w : Width) (n : Int) : Option w.Carrier :=
  if w.range.1 ≤ n ∧ n ≤ w.range.2 then some (w.ofInt n) else none

end Width

mutual

inductive Shape where
  | text
  | flag
  | whole (width : Width)
  /-- One of some labels; any other text is an unknown variant. -/
  | choice (labels : List String)
  /-- One of the names in a register; any other text draws the complaint. -/
  | registered (names : List String) (complaint : String)
  | list (item : Shape)
  /-- An object with members of any kind. -/
  | table
  /-- Named fields; a strict record refuses fields that it does not name. -/
  | record (name : String) (strict : Bool) (fields : Fields)

/-- The fields of a record in their order. -/
inductive Fields where
  | done
  /-- A field that must be there. -/
  | required (key : String) (shape : Shape) (rest : Fields)
  /-- A field with a default for when it is left out. -/
  | defaulted (key : String) (shape : Shape) (rest : Fields)
  /-- A field that may be left out or null, and is written only if it has a value. `lax` says
  whether a record written as a list may end before it. -/
  | optional (key : String) (lax : Bool) (shape : Shape) (rest : Fields)

end

mutual

def Shape.Carrier : Shape → Type
  | .text => String
  | .flag => Bool
  | .whole width => width.Carrier
  | .choice labels => Fin labels.length
  | .registered _ _ => String
  | .list item => List item.Carrier
  | .table => List (String × Json)
  | .record _ _ fields => fields.Carrier

def Fields.Carrier : Fields → Type
  | .done => Unit
  | .required _ shape rest => shape.Carrier × rest.Carrier
  | .defaulted _ shape rest => Option shape.Carrier × rest.Carrier
  | .optional _ _ shape rest => Option shape.Carrier × rest.Carrier

end

/-- The field names in order. -/
def Fields.keys : Fields → List String
  | .done => []
  | .required key _ rest => key :: rest.keys
  | .defaulted key _ rest => key :: rest.keys
  | .optional key _ _ rest => key :: rest.keys

mutual

/-- The written form of a value. -/
def Shape.encode : (s : Shape) → s.Carrier → Json
  | .text, v => .text v
  | .flag, v => .bool v
  | .whole width, v => .number (.whole (width.toInt v))
  | .choice labels, v => .text (labels.get v)
  | .registered _ _, v => .text v
  | .list item, v => .array (List.map item.encode v)
  | .table, v => .object v
  | .record _ _ fields, v => .object (fields.encode v)

/-- The members of a record; fields without a value are left out. -/
def Fields.encode : (fs : Fields) → fs.Carrier → List (String × Json)
  | .done, _ => []
  | .required key shape rest, (v, vs) => (key, shape.encode v) :: rest.encode vs
  | .defaulted key shape rest, (v, vs) =>
    match v with
    | some v => (key, shape.encode v) :: rest.encode vs
    | none => rest.encode vs
  | .optional key _ shape rest, (v, vs) =>
    match v with
    | some v => (key, shape.encode v) :: rest.encode vs
    | none => rest.encode vs

end

/-- A type with a written form: its values are those of a shape, and back. -/
structure Form (α : Type) where
  shape : Shape
  toCarrier : α → shape.Carrier
  ofCarrier : shape.Carrier → α

def Form.encode {α : Type} (form : Form α) (value : α) : Json :=
  form.shape.encode (form.toCarrier value)

end DeviceAdmission.Wire
