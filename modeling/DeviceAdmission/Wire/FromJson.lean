import DeviceAdmission.Json.Document
import DeviceAdmission.Text.Quoted
import DeviceAdmission.Wire.Record

/-!
# Reading shapes from JSON

A walk over the located tree of a document along a shape, in the order of the text, so of two faults
the earlier one is reported. A mismatch in a token has its own place; a mismatch of a record as a
whole (a field that is missing, doubled or unknown) is placed where its container ends, or where the
reader would stand after trying to close it.

A record may also be written as a list of its fields. A choice may also be written as an object
whose only member has the label as its key and null as its value.
-/
namespace DeviceAdmission.Wire

open Json (Defect Fault Position Source Node Items Members)

/-- Why a document was refused. -/
inductive Cause where
  | defect (d : Defect)
  | mismatch (m : Mismatch)
  deriving DecidableEq, Repr

def Cause.message : Cause → String
  | .defect d => d.message
  | .mismatch m => m.message

structure ReadError where
  cause : Cause
  position : Position
  deriving DecidableEq, Repr

/-- The number that leading digits spell, if it fits sixty-four bits, and what follows them. -/
def leadingNumber? (cs : List Char) : Option (Nat × List Char) :=
  let digits := cs.takeWhile Char.isDigit
  let n := Nat.ofDigitChars 10 digits 0
  if digits.isEmpty || 0x1_0000_0000_0000_0000 ≤ n then none
  else some (n, cs.dropWhile Char.isDigit)

/-- The rest of a list after a given beginning. -/
def after? (beginning : List Char) (cs : List Char) : Option (List Char) :=
  if beginning.isPrefixOf cs then some (cs.drop beginning.length) else none

/-- The line and column that a text names after ` at line `, if nothing follows them. -/
def namedPosition? (cs : List Char) : Option Position := do
  let cs ← after? " at line ".toList cs
  let (line, cs) ← leadingNumber? cs
  let cs ← after? " column ".toList cs
  let (column, cs) ← leadingNumber? cs
  if cs.isEmpty then some ⟨line, column⟩ else none

/-- A text that ends by naming a position, cut before it. Only the last ` at line ` counts. -/
def statedPosition? (text : String) : Option (String × Position) :=
  let cs := text.toList
  let starts := (List.range (cs.length + 1)).filter fun i =>
    (" at line ".toList).isPrefixOf (cs.drop i)
  starts.getLast?.bind fun i => (namedPosition? (cs.drop i)).map (String.ofList (cs.take i), ·)

/-- The wording of a refusal. A cause that ends by naming a position is taken at its word, unless it
names line zero. -/
def ReadError.message (r : ReadError) : String :=
  let (text, p) := match statedPosition? r.cause.message with
    | some (text, p) => (text, if p.line == 0 then r.position else p)
    | none => (r.cause.message, r.position)
  text ++ " at line " ++ toString p.line ++ " column " ++ toString p.column

/-- What stops the walk. A floating mismatch has yet to be placed by its container; it holds the
index where the reader stood. -/
inductive Halt where
  | fault (f : Fault)
  | mismatch (m : Mismatch) (offset : Nat)
  | floating (m : Mismatch) (cursor : Nat)

/-- What a mismatch calls the value found, and where it is placed: after a token, before the bracket
of a container. -/
def found : Node → Except Fault (String × Nat)
  | .null _ stop => .ok ("null", stop)
  | .bool b _ stop => .ok (if b then "boolean `true`" else "boolean `false`", stop)
  | .number (.ok (.whole n)) _ stop => .ok ("integer `" ++ toString n ++ "`", stop)
  | .number (.ok (.fraction x)) _ stop =>
    .ok ("floating point `" ++ (Json.Number.fraction x).render ++ "`", stop)
  | .text (.ok s) _ stop => .ok ("string " ++ Text.Quoted.text s, stop)
  | .array start _ => .ok ("sequence", start)
  | .object start _ => .ok ("map", start)
  | .number (.error f) _ _ => .error f
  | .text (.error f) _ _ => .error f
  | .broken _ strict _ => .error strict
  | .missing f => .error f

/-- A value of another type than the one expected. -/
def wrongType {α : Type} (expected : String) (node : Node) : Except Halt α :=
  match found node with
  | .ok (text, offset) => .error (.mismatch (.wrongType text expected) offset)
  | .error f => .error (.fault f)

/-- Where the reader stands after trying to close an object. -/
def closeObject (src : Source) (cursor : Nat) : Nat :=
  let i := src.skipBlanks cursor
  if src.at? i == some 125 then i + 1 else i

/-- Where the reader stands after trying to close an array. -/
def closeArray (src : Source) (cursor : Nat) : Nat :=
  let i := src.skipBlanks cursor
  if src.at? i == some 93 then i + 1
  else if src.at? i == some 44 then src.skipBlanks (i + 1)
  else i

/-- A container places what floats in it. -/
def placing {α : Type} (close : Nat → Nat) (r : Except Halt α) : Except Halt α :=
  match r with
  | .error (.floating m cursor) => .error (.mismatch m (close cursor))
  | other => other

/-- Refuses a container at the depth limit. -/
def entering {α : Type} (src : Source) (depth start : Nat) (r : Nat → Except Halt α) :
    Except Halt α :=
  if depth ≤ 1 then .error (.fault (src.faultAhead .tooDeep start)) else r (depth - 1)

/-- Nothing may follow the items that a record took. -/
def checkArrayEnd (src : Source) (cursor : Nat) : Except Halt Unit :=
  let i := src.skipBlanks cursor
  match src.at? i with
  | none => .error (.fault (src.faultAhead .eofInList i))
  | some 93 => .ok ()
  | some 44 =>
    let j := src.skipBlanks (i + 1)
    let defect := if src.at? j == some 93 then Defect.trailingComma else .trailingCharacters
    .error (.fault (src.faultAhead defect j))
  | some _ => .error (.fault (src.faultAhead .trailingCharacters i))

/-- A label as it stands in a document, found among some names. -/
def label (names : List String) (s : String) (stop : Nat) : Except Halt (Fin names.length) :=
  match indexOf? s names with
  | some i => .ok i
  | none => .error (.mismatch (.unknownVariant s names) stop)

/-- A choice written as an object, whose brace is at `start`. -/
def labelledNull (src : Source) (names : List String) (start : Nat) :
    Except Halt (Fin names.length) :=
  match src.nodeAt (start + 1) with
  | (.text (.ok s) _ stop, _) => do
    let i ← label names s stop
    let colon := src.skipBlanks stop
    if src.at? colon != some 58 then
      let defect := if colon < src.size then Defect.colonExpected else .eofInObject
      .error (.fault (src.faultAhead defect colon))
    else match src.nodeAt (colon + 1) with
      | (.null _ stop, _) =>
        let j := src.skipBlanks stop
        match src.at? j with
        | some 125 => .ok i
        | some _ => .error (.fault (src.fault .valueExpected j))
        | none => .error (.fault (src.fault .eofInObject j))
      | (other, _) => wrongType "unit" other
  | (other, _) => wrongType "variant identifier" other

/-- A choice from any node: only a text or an object can hold one. -/
def choice (src : Source) (depth : Nat) (names : List String) (node : Node) :
    Except Halt (Fin names.length) :=
  let noValue (start : Nat) : Except Halt (Fin names.length) :=
    .error (.fault (src.faultAhead .valueExpected start))
  match node with
  | .text (.ok s) _ stop => label names s stop
  | .text (.error f) _ _ => .error (.fault f)
  | .object start _ => entering src depth start fun _ => labelledNull src names start
  | .broken start strict _ =>
    match src.at? start with
    | none | some 34 => .error (.fault strict)
    | some _ => noValue start
  | .missing f => .error (.fault f)
  | .null start _ | .bool _ start _ | .number _ start _ | .array start _ => noValue start

/-- Walks over the items of an array. -/
def readList {α : Type} (read : Node → Except Halt α) : Items → Except Halt (List α)
  | .done _ => .ok []
  | .item node _ rest => do
    let v ← read node
    let vs ← readList read rest
    return v :: vs
  | .broken strict _ => .error (.fault strict)

/-- Walks over the members of an object, filling slots. -/
def readSlots {σ : Type} (put : String → Nat → Node → σ → Except Halt σ) :
    Members → σ → Except Halt (σ × Nat)
  | .done stop, slots => .ok (slots, stop - 1)
  | .member key keyStop node _ rest, slots =>
    match key with
    | .error f => .error (.fault f)
    | .ok k => do
      let slots ← put k keyStop node slots
      readSlots put rest slots
  | .broken strict _, _ => .error (.fault strict)

mutual

/-- Reads a value of a shape; `depth` is what remains of the nesting limit. -/
def Shape.ofJson (src : Source) : (s : Shape) → Nat → Node → Except Halt s.Carrier
  | .text, _, node =>
    match node with
    | .text (.ok s) _ _ => .ok s
    | other => wrongType "a string" other
  | .flag, _, node =>
    match node with
    | .bool b _ _ => .ok b
    | other => wrongType "a boolean" other
  | .whole width, _, node =>
    match node with
    | .number (.ok (.whole n)) _ stop =>
      match width.ofInt? n with
      | some v => .ok v
      | none => .error (.mismatch (.wrongValue ("integer `" ++ toString n ++ "`") width.name) stop)
    | other => wrongType width.name other
  | .choice labels, depth, node => choice src depth labels node
  | .registered names complaint, _, node =>
    match node with
    | .text (.ok s) _ stop =>
      if names.contains s then .ok s
      else .error (.floating (.unregistered complaint s) stop)
    | other => wrongType "a string" other
  | .list item, depth, node =>
    match node with
    | .array start items =>
      entering src depth start fun depth =>
        placing (closeArray src) (readList (item.ofJson src depth) items)
    | other => wrongType "a sequence" other
  | .table, depth, node =>
    match node with
    | .object start members =>
      entering src depth start fun depth =>
        match Members.value src depth members with
        | .ok ms => .ok (Json.ofMembers ms)
        | .error f => .error (.fault f)
    | other => wrongType "a map" other
  | .record name strict fields, depth, node =>
    match node with
    | .object start members =>
      entering src depth start fun depth =>
        placing (closeObject src) <| do
          let (slots, cursor) ←
            readSlots (fields.put src depth (if strict then some fields.keys else none))
              members fields.empty
          match fields.finish slots with
          | .ok v => .ok v
          | .error m => .error (.floating m cursor)
    | .array start items =>
      entering src depth start fun depth =>
        placing (closeArray src) <| do
          let (v, cursor) ← fields.ofItems src depth (elementCount name fields) 0 items (start + 1)
          checkArrayEnd src cursor
          .ok v
    | other => wrongType ("struct " ++ name) other

/-- Reads the member of a key into its slot. An unknown key is walked over, or refused by a strict
record, which gives its keys. -/
def Fields.put (src : Source) : (fs : Fields) → Nat → Option (List String) → String → Nat → Node →
    fs.Slots → Except Halt fs.Slots
  | .done, _, strict, key, keyStop, node, slots =>
    match strict with
    | some keys => .error (.floating (.unknownField key keys) keyStop)
    | none =>
      match Node.ignore node with
      | .ok _ => .ok slots
      | .error f => .error (.fault f)
  | .required k shape rest, depth, strict, key, keyStop, node, (slot, slots) =>
    if k == key then
      if slot.isSome then .error (.floating (.duplicateField k) keyStop)
      else (shape.ofJson src depth node).map fun v => (some v, slots)
    else (rest.put src depth strict key keyStop node slots).map fun slots => (slot, slots)
  | .defaulted k shape rest, depth, strict, key, keyStop, node, (slot, slots) =>
    if k == key then
      if slot.isSome then .error (.floating (.duplicateField k) keyStop)
      else (shape.ofJson src depth node).map fun v => (some v, slots)
    else (rest.put src depth strict key keyStop node slots).map fun slots => (slot, slots)
  | .optional k _ shape rest, depth, strict, key, keyStop, node, (slot, slots) =>
    if k == key then
      if slot.isSome then .error (.floating (.duplicateField k) keyStop)
      else match node with
        | .null _ _ => .ok (some none, slots)
        | other => (shape.ofJson src depth other).map fun v => (some (some v), slots)
    else (rest.put src depth strict key keyStop node slots).map fun slots => (slot, slots)

/-- Reads a record written as a list. `cursor` is the index after the item taken last. -/
def Fields.ofItems (src : Source) : (fs : Fields) → Nat → String → Nat → Items → Nat →
    Except Halt (fs.Carrier × Nat)
  | .done, _, _, _, _, cursor => .ok ((), cursor)
  | .required _ shape rest, depth, expected, count, items, cursor =>
    match items with
    | .item node stop items => do
      let v ← shape.ofJson src depth node
      let (vs, cursor) ← rest.ofItems src depth expected (count + 1) items stop
      return ((v, vs), cursor)
    | .done _ => .error (.floating (.wrongLength count expected) cursor)
    | .broken strict _ => .error (.fault strict)
  | .defaulted _ shape rest, depth, expected, count, items, cursor =>
    match items with
    | .item node stop items => do
      let v ← shape.ofJson src depth node
      let (vs, cursor) ← rest.ofItems src depth expected (count + 1) items stop
      return ((some v, vs), cursor)
    | .done stop => do
      let (vs, cursor) ← rest.ofItems src depth expected (count + 1) (.done stop) cursor
      return ((none, vs), cursor)
    | .broken strict _ => .error (.fault strict)
  | .optional _ lax shape rest, depth, expected, count, items, cursor =>
    match items with
    | .item node stop items => do
      let v ← match node with
        | .null _ _ => .ok none
        | other => some <$> shape.ofJson src depth other
      let (vs, cursor) ← rest.ofItems src depth expected (count + 1) items stop
      return ((v, vs), cursor)
    | .done stop =>
      if lax then do
        let (vs, cursor) ← rest.ofItems src depth expected (count + 1) (.done stop) cursor
        return ((none, vs), cursor)
      else .error (.floating (.wrongLength count expected) cursor)
    | .broken strict _ => .error (.fault strict)

end

/-- Reads a whole text as a value of a shape. -/
def Shape.parse (s : Shape) (text : String) : Except ReadError s.Carrier :=
  let src := Source.ofString text
  let (node, stop) := src.nodeAt 0
  match s.ofJson src Json.depthLimit node with
  | .error (.fault f) => .error ⟨.defect f.defect, src.position f.offset⟩
  | .error (.mismatch m offset) => .error ⟨.mismatch m, src.position offset⟩
  | .error (.floating m cursor) => .error ⟨.mismatch m, src.position cursor⟩
  | .ok v =>
    match src.checkEnd (stop.getD 0) with
    | .ok _ => .ok v
    | .error f => .error ⟨.defect f.defect, src.position f.offset⟩

def Form.parse {α : Type} (form : Form α) (text : String) : Except ReadError α :=
  (form.shape.parse text).map form.ofCarrier

end DeviceAdmission.Wire
