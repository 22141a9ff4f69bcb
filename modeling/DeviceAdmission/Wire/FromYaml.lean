import DeviceAdmission.Text.Quoted
import DeviceAdmission.Wire.Record
import DeviceAdmission.Yaml.Document
import DeviceAdmission.Yaml.Meaning

/-!
# Reading shapes from YAML

A walk over the first document of a text along a shape. A mismatch is reported with the path to it
and its place; one of a record as a whole is placed where the record begins. What breaks the text
counts only when the walk comes to it, or after the walk.

An empty plain scalar is a record without fields. A choice may also be written as a local tag on a
null. Tables have no form here and are refused.
-/
namespace DeviceAdmission.Wire

open Yaml (Document Fault Mark Meaning Node Style Uri)

/-- Why a YAML text was refused. -/
inductive YamlError where
  | fault (f : Fault)
  /-- The text ends where a value is expected. -/
  | endOfText
  | severalDocuments
  /-- The place of a mismatch is its mark and the path to it. -/
  | mismatch (m : Mismatch) (place : Option (Mark × String))
  deriving DecidableEq, Repr

def YamlError.message : YamlError → String
  | .fault f => f.message
  | .endOfText => "EOF while parsing a value"
  | .severalDocuments =>
    "deserializing from YAML containing more than one document is not supported"
  | .mismatch m none => m.message
  | .mismatch m (some (mark, path)) =>
    (if path.isEmpty then "" else path ++ ": ") ++ m.message ++ mark.suffix

namespace YamlError

/-- Gives a place to a mismatch that has none. -/
def located {α : Type} (mark : Mark) (path : String) (r : Except YamlError α) :
    Except YamlError α :=
  match r with
  | .error (.mismatch m none) => .error (.mismatch m (some (mark, path)))
  | other => other

end YamlError

/-- What a mismatch calls the meaning found. -/
def meaningName : Meaning → String
  | .null => "unit value"
  | .bool b => if b then "boolean `true`" else "boolean `false`"
  | .whole n =>
    let width :=
      if 0x1_0000_0000_0000_0000 ≤ n then " as u128"
      else if n < -0x8000_0000_0000_0000 then " as i128"
      else ""
    "integer `" ++ toString n ++ "`" ++ width
  | .fraction x => "floating point `" ++ x.text ++ "`"
  | .text s => "string " ++ Text.Quoted.text s

/-- How a scalar misses an expectation. -/
def scalarMismatch (expected : String) (tag : Option Uri) (style : Style) (s : String) :
    Mismatch :=
  match Yaml.meaning tag style s with
  | .ok m => .wrongType (meaningName m) expected
  | .error asked => .wrongValue ("string " ++ Text.Quoted.text s) asked

/-- The error of a walk that comes to where the parts run out. -/
def runOut (d : Document) : YamlError :=
  match d.fault with
  | some f => .fault f
  | none => .endOfText

/-- A node that has not the expected type. -/
def wrongNode {α : Type} (d : Document) (expected path : String) : Node → Except YamlError α
  | .scalar mark tag s style =>
    .error (.mismatch (scalarMismatch expected tag style s) (some (mark, path)))
  | .sequence mark _ _ _ => .error (.mismatch (.wrongType "sequence" expected) (some (mark, path)))
  | .mapping mark _ _ _ => .error (.mismatch (.wrongType "map" expected) (some (mark, path)))
  | .void => .error .endOfText
  | .same _ _ | .missing => .error (runOut d)

/-- The path to a member. Keys that are no scalars are not spelled out. -/
def memberPath (path : String) (key : Node) : String :=
  (if path.isEmpty then "" else path ++ ".") ++ match key with
    | .scalar _ _ s _ => s
    | _ => "?"

/-- The path to an item of a sequence. -/
def itemPath (path : String) (index : Nat) : String :=
  (if path.isEmpty then "." else path) ++ "[" ++ toString index ++ "]"

/-- The name after the mark of a local tag. -/
def localTag? (tag : Option Uri) : Option String :=
  match tag with
  | some (33 :: rest) =>
    let octets := if rest.isEmpty then [33] else rest
    String.fromUTF8? ⟨octets.toArray⟩
  | _ => none

/-- A scalar that means null whatever its tag. -/
def isNullScalar (style : Style) (s : String) : Bool :=
  style == .plain && (s.isEmpty || Yaml.isNullWord s)

/-- A choice by its label, which is a scalar or a local tag on a null. -/
def yamlChoice (d : Document) (labels : List String) (path : String) (node : Node) :
    Except YamlError (Fin labels.length) :=
  let ofLabel (s : String) : Except YamlError (Fin labels.length) :=
    match indexOf? s labels with
    | some i => .ok i
    | none => .error (.mismatch (.unknownVariant s labels) none)
  let tagged (tag : Option Uri) (untagged : Except YamlError (Fin labels.length)) :
      Except YamlError (Fin labels.length) :=
    match localTag? tag with
    | none => untagged
    | some name => do
      let i ← ofLabel name
      match node with
      | .scalar _ _ s style =>
        if isNullScalar style s then return i else wrongNode d "unit" path node
      | _ => wrongNode d "unit" path node
  match node with
  | .scalar mark tag s _ => tagged tag (YamlError.located mark path (ofLabel s))
  | .sequence _ tag _ _ | .mapping _ tag _ _ =>
    tagged tag (wrongNode d "a YAML tag starting with '!'" path node)
  | other => wrongNode d "variant identifier" path other

/-- A whole number of a width, from a scalar that may mean one. -/
def yamlWhole? (width : Width) (s : String) : Option Int :=
  if width.range.1 < 0 then
    (Yaml.unsigned? 0x7FFF_FFFF_FFFF_FFFF s).map (fun n => (n : Int)) <|>
      Yaml.negative? 0x8000_0000_0000_0000 s
  else (Yaml.unsigned? 0xFFFF_FFFF_FFFF_FFFF s).map fun n => (n : Int)

/-- Walks over the items of a sequence. -/
def readItems {α : Type} (read : Nat → Node → Except YamlError α) :
    Nat → List Node → Except YamlError (List α)
  | _, [] => .ok []
  | index, node :: rest => do
    let v ← read index node
    let vs ← readItems read (index + 1) rest
    return v :: vs

/-- Walks over the entries of a mapping, filling slots. `put` gets the path of the value, the key's
mark and text, and the value. -/
def readEntries {σ : Type} (d : Document) (path : String)
    (put : String → Mark → String → Node → σ → Except YamlError σ) :
    List (Node × Node) → σ → Except YamlError σ
  | [], slots => .ok slots
  | (key, value) :: rest, slots =>
    match d.resolve key with
    | .scalar mark _ s _ => do
      let slots ← put (memberPath path key) mark s value slots
      readEntries d path put rest slots
    | other => wrongNode d "field identifier" path other

/-- A collection that is not closed ends where the parts run out. -/
def checkClosed (d : Document) (closed : Bool) : Except YamlError Unit :=
  if closed then .ok () else .error (runOut d)

/-- Closes a record; its mismatches have yet to be placed. -/
def Fields.finishYaml (fields : Fields) (slots : fields.Slots) : Except YamlError fields.Carrier :=
  match fields.finish slots with
  | .ok v => .ok v
  | .error m => .error (.mismatch m none)

mutual

/-- Reads a value of a shape from a node at a path. -/
def Shape.ofYaml (d : Document) : (s : Shape) → String → Node → Except YamlError s.Carrier
  | .text, path, node =>
    match d.resolve node with
    | .scalar _ _ s _ => .ok s
    | other => wrongNode d "a string" path other
  | .flag, path, node =>
    match d.resolve node with
    | .scalar mark tag s style =>
      match if Yaml.isReadAs "bool" tag style then Yaml.bool? s else none with
      | some b => .ok b
      | none => wrongNode d "a boolean" path (.scalar mark tag s style)
    | other => wrongNode d "a boolean" path other
  | .whole width, path, node =>
    match d.resolve node with
    | .scalar mark tag s style =>
      match if Yaml.isReadAs "int" tag style then yamlWhole? width s else none with
      | some n =>
        match width.ofInt? n with
        | some v => .ok v
        | none =>
          .error (.mismatch (.wrongValue (meaningName (.whole n)) width.name) (some (mark, path)))
      | none => wrongNode d width.name path (.scalar mark tag s style)
    | other => wrongNode d width.name path other
  | .choice labels, path, node =>
    let r := yamlChoice d labels path (d.resolve node)
    match node with
    | .same mark _ => YamlError.located mark path r
    | _ => r
  | .registered names complaint, path, node =>
    match d.resolve node with
    | .scalar mark _ s _ =>
      if names.contains s then .ok s
      else .error (.mismatch (.unregistered complaint s) (some (mark, path)))
    | other => wrongNode d "a string" path other
  | .list item, path, node =>
    match d.resolve node with
    | .sequence mark _ items closed =>
      YamlError.located mark path <| do
        let vs ← readItems (fun index node => item.ofYaml d (itemPath path index) node) 0 items
        checkClosed d closed
        return vs
    | .scalar mark tag s style =>
      if style == .plain && s.isEmpty then .ok []
      else wrongNode d "a sequence" path (.scalar mark tag s style)
    | .void => .ok []
    | other => wrongNode d "a sequence" path other
  | .table, path, node => wrongNode d "a shape that YAML can hold" path (d.resolve node)
  | .record name strict fields, path, node =>
    match d.resolve node with
    | .mapping mark _ entries closed =>
      YamlError.located mark path <| do
        let slots ← readEntries d path
          (fields.putYaml d (if strict then some fields.keys else none) path) entries fields.empty
        checkClosed d closed
        fields.finishYaml slots
    | .scalar mark tag s style =>
      if style == .plain && s.isEmpty then
        YamlError.located mark path (fields.finishYaml fields.empty)
      else wrongNode d ("struct " ++ name) path (.scalar mark tag s style)
    | .void => fields.finishYaml fields.empty
    | other => wrongNode d ("struct " ++ name) path other

/-- Reads the value of a key into its slot. An unknown key is passed over, or refused by a strict
record, which gives its keys. -/
def Fields.putYaml (d : Document) : (fs : Fields) → Option (List String) → String → String → Mark →
    String → Node → fs.Slots → Except YamlError fs.Slots
  | .done, strict, path, _, mark, key, node, slots =>
    match strict with
    | some keys => .error (.mismatch (.unknownField key keys) (some (mark, path)))
    | none =>
      match node with
      | .sequence _ _ _ closed | .mapping _ _ _ closed => do checkClosed d closed; return slots
      | .missing => .error (runOut d)
      | _ => .ok slots
  | .required k shape rest, strict, path, inner, mark, key, node, (slot, slots) =>
    if k == key then
      if slot.isSome then .error (.mismatch (.duplicateField k) none)
      else (shape.ofYaml d inner node).map fun v => (some v, slots)
    else (rest.putYaml d strict path inner mark key node slots).map fun slots => (slot, slots)
  | .defaulted k shape rest, strict, path, inner, mark, key, node, (slot, slots) =>
    if k == key then
      if slot.isSome then .error (.mismatch (.duplicateField k) none)
      else (shape.ofYaml d inner node).map fun v => (some v, slots)
    else (rest.putYaml d strict path inner mark key node slots).map fun slots => (slot, slots)
  | .optional k _ shape rest, strict, path, inner, mark, key, node, (slot, slots) =>
    if k == key then
      if slot.isSome then .error (.mismatch (.duplicateField k) none)
      else match d.resolve node with
        | .scalar mark tag s style =>
          if isNullScalar style s then .ok (some none, slots)
          else (shape.ofYaml d inner (.scalar mark tag s style)).map fun v => (some (some v), slots)
        | .void => .ok (some none, slots)
        | other => (shape.ofYaml d inner other).map fun v => (some (some v), slots)
    else (rest.putYaml d strict path inner mark key node slots).map fun slots => (slot, slots)

end

/-- Reads a text, which holds one document, as a value of a shape. -/
def Shape.parseYaml (s : Shape) (text : String) : Except YamlError s.Carrier := do
  let d := Document.ofText text
  let v ← s.ofYaml d "" d.root
  match d.fault with
  | some f => throw (.fault f)
  | none => if d.followed then throw .severalDocuments else return v

def Form.parseYaml {α : Type} (form : Form α) (text : String) : Except YamlError α :=
  (form.shape.parseYaml text).map form.ofCarrier

end DeviceAdmission.Wire
