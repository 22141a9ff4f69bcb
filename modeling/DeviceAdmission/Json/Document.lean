import DeviceAdmission.Json.Token

/-!
# JSON documents as located trees

A document is read into a tree whose nodes know where they stand in the text. Where the grammar is
broken the tree ends in a broken node, which holds the fault of the strict reading and that of the
lenient one, so a consumer that walks the tree in order meets the fault when it gets there and not
before. `Document.value` is the consumer that takes any value.
-/
namespace DeviceAdmission.Json

mutual

/-- A value in its place. `start` is the index of its first octet, `stop` the index after it. -/
inductive Node where
  | null (start stop : Nat)
  | bool (value : Bool) (start stop : Nat)
  | number (value : Except Fault Number) (start stop : Nat)
  | text (value : Except Fault String) (start stop : Nat)
  | array (start : Nat) (items : Items)
  | object (start : Nat) (members : Members)
  /-- A token that breaks off. -/
  | broken (start : Nat) (strict lenient : Fault)
  /-- No value stands here because the colon before it is missing. -/
  | missing (fault : Fault)

/-- The items of an array; `stop` is the index after its bracket. -/
inductive Items where
  | done (stop : Nat)
  | item (node : Node) (stop : Nat) (rest : Items)
  | broken (strict lenient : Fault)

/-- The members of an object; `keyStop` is the index after the key's quote. -/
inductive Members where
  | done (stop : Nat)
  | member (key : Except Fault String) (keyStop : Nat) (node : Node) (stop : Nat) (rest : Members)
  | broken (strict lenient : Fault)

end

namespace Source

/-- The string whose opening quote is at `i`: its strict reading and its end, or the two faults. -/
def readText (src : Source) (i : Nat) : Except Disagreement (Except Fault String × Nat) :=
  let strict := src.readString (i + 1)
  match src.skipString (i + 1), strict with
  | .ok stop, _ => .ok (strict.map (·.1), stop)
  | .error lenient, .error f => .error ⟨f, lenient⟩
  | .error lenient, .ok _ => .error (both lenient)

/-- The number at `i`, whose sign is consumed first. -/
def readNumber (src : Source) (i : Nat) : Node × Option Nat :=
  let negative := src.at? i == some 45
  match src.spanNumber negative (if negative then i + 1 else i) with
  | .ok s => (.number (src.numberValue s) i s.stop, some s.stop)
  | .error d => (.broken i d.strict d.lenient, none)

def readLiteralNode (src : Source) (rest : List UInt8) (i : Nat) (make : Nat → Nat → Node) :
    Node × Option Nat :=
  match src.readLiteral rest (i + 1) with
  | .ok stop => (make i stop, some stop)
  | .error f => (.broken i f f, none)

mutual

/-- The value at `i` after blanks, and the index after it unless the text breaks off in it. -/
def readNode (src : Source) : Nat → Nat → Node × Option Nat
  | 0, i => let f := src.faultAhead .eofInValue i; (.broken i f f, none)
  | fuel + 1, i =>
    let i := src.skipBlanks i
    match src.at? i with
    | none => let f := src.faultAhead .eofInValue i; (.broken i f f, none)
    | some b =>
      if b == 110 then src.readLiteralNode [117, 108, 108] i .null
      else if b == 116 then src.readLiteralNode [114, 117, 101] i (.bool true)
      else if b == 102 then src.readLiteralNode [97, 108, 115, 101] i (.bool false)
      else if b == 45 || isDigit b then src.readNumber i
      else if b == 34 then
        match src.readText i with
        | .ok (value, stop) => (.text value i stop, some stop)
        | .error d => (.broken i d.strict d.lenient, none)
      else if b == 91 then
        let (items, stop) := src.readItems fuel true (i + 1)
        (.array i items, stop)
      else if b == 123 then
        let (members, stop) := src.readMembers fuel true (i + 1)
        (.object i members, stop)
      else let f := src.faultAhead .valueExpected i; (.broken i f f, none)

/-- The items from `i` on. -/
def readItems (src : Source) : Nat → Bool → Nat → Items × Option Nat
  | 0, _, i => let f := src.faultAhead .eofInList i; (.broken f f, none)
  | fuel + 1, first, i =>
    let i := src.skipBlanks i
    let item (i : Nat) : Items × Option Nat :=
      match src.readNode fuel i with
      | (node, none) => (.item node 0 (.done 0), none)
      | (node, some stop) =>
        let (rest, last) := src.readItems fuel false stop
        (.item node stop rest, last)
    match src.at? i with
    | none => let f := src.faultAhead .eofInList i; (.broken f f, none)
    | some b =>
      if b == 93 then (.done (i + 1), some (i + 1))
      else if first then item i
      else if b == 44 then
        let j := src.skipBlanks (i + 1)
        match src.at? j with
        | none => let f := src.faultAhead .eofInValue j; (.broken f f, none)
        | some c =>
          if c == 93 then
            (.broken (src.faultAhead .trailingComma j) (src.faultAhead .valueExpected j), none)
          else item j
      else let f := src.faultAhead .listCommaOrEndExpected i; (.broken f f, none)

/-- The members from `i` on. -/
def readMembers (src : Source) : Nat → Bool → Nat → Members × Option Nat
  | 0, _, i => let f := src.faultAhead .eofInObject i; (.broken f f, none)
  | fuel + 1, first, i =>
    let i := src.skipBlanks i
    let member (i : Nat) : Members × Option Nat :=
      match src.readText i with
      | .error d => (.broken d.strict d.lenient, none)
      | .ok (key, keyStop) =>
        let colon := src.skipBlanks keyStop
        if src.at? colon == some 58 then
          match src.readNode fuel (colon + 1) with
          | (node, none) => (.member key keyStop node 0 (.done 0), none)
          | (node, some stop) =>
            let (rest, last) := src.readMembers fuel false stop
            (.member key keyStop node stop rest, last)
        else
          let defect := if colon < src.size then Defect.colonExpected else .eofInObject
          (.member key keyStop (.missing (src.faultAhead defect colon)) 0 (.done 0), none)
    match src.at? i with
    | none => let f := src.faultAhead .eofInObject i; (.broken f f, none)
    | some b =>
      if b == 125 then (.done (i + 1), some (i + 1))
      else if first then
        if b == 34 then member i
        else let f := src.faultAhead .keyNotText i; (.broken f f, none)
      else if b == 44 then
        let j := src.skipBlanks (i + 1)
        match src.at? j with
        | none =>
          (.broken (src.faultAhead .eofInValue j) (src.faultAhead .eofInObject j), none)
        | some c =>
          if c == 34 then member j
          else
            let strict := if c == 125 then Defect.trailingComma else .keyNotText
            (.broken (src.faultAhead strict j) (src.faultAhead .keyNotText j), none)
      else let f := src.faultAhead .objectCommaOrEndExpected i; (.broken f f, none)

end

/-- The value at an index; each call reads at least one octet or is the last, twice over. -/
def nodeAt (src : Source) (i : Nat) : Node × Option Nat := src.readNode (2 * src.size + 4) i

/-- Nothing but blanks may follow the value. -/
def checkEnd (src : Source) (i : Nat) : Except Fault Unit :=
  let i := src.skipBlanks i
  if i < src.size then .error (src.faultAhead .trailingCharacters i) else .ok ()

end Source

/-- A container at the remaining depth of one is refused. -/
def depthLimit : Nat := 128

mutual

/-- The value of a node, for a consumer that takes any. `depth` is what remains of the limit. -/
def Node.value (src : Source) (depth : Nat) : Node → Except Fault Json
  | .null _ _ => .ok .null
  | .bool b _ _ => .ok (.bool b)
  | .number n _ _ => n.map .number
  | .text s _ _ => s.map .text
  | .array start items =>
    if depth ≤ 1 then .error (src.faultAhead .tooDeep start)
    else (Items.value src (depth - 1) items).map .array
  | .object start members =>
    if depth ≤ 1 then .error (src.faultAhead .tooDeep start)
    else (Members.value src (depth - 1) members).map fun ms => .object (ofMembers ms)
  | .broken _ strict _ => .error strict
  | .missing fault => .error fault

def Items.value (src : Source) (depth : Nat) : Items → Except Fault (List Json)
  | .done _ => .ok []
  | .item node _ rest => do
    let v ← Node.value src depth node
    let vs ← Items.value src depth rest
    return v :: vs
  | .broken strict _ => .error strict

/-- The members in the order of the text. -/
def Members.value (src : Source) (depth : Nat) : Members → Except Fault (List (String × Json))
  | .done _ => .ok []
  | .member key _ node _ rest => do
    let k ← key
    let v ← Node.value src depth node
    let vs ← Members.value src depth rest
    return (k, v) :: vs
  | .broken strict _ => .error strict

end

mutual

/-- Walks over a value that nobody asks for; only the lenient faults count, at any depth. -/
def Node.ignore : Node → Except Fault Unit
  | .null _ _ | .bool _ _ _ | .number _ _ _ | .text _ _ _ => .ok ()
  | .array _ items => Items.ignore items
  | .object _ members => Members.ignore members
  | .broken _ _ lenient => .error lenient
  | .missing fault => .error fault

def Items.ignore : Items → Except Fault Unit
  | .done _ => .ok ()
  | .item node _ rest => do
    Node.ignore node
    Items.ignore rest
  | .broken _ lenient => .error lenient

def Members.ignore : Members → Except Fault Unit
  | .done _ => .ok ()
  | .member _ _ node _ rest => do
    Node.ignore node
    Members.ignore rest
  | .broken _ lenient => .error lenient

end

/-- Reads a whole text as one value. -/
def parse (text : String) : Except Fault Json :=
  let src := Source.ofString text
  let (node, stop) := src.nodeAt 0
  match Node.value src depthLimit node with
  | .error f => .error f
  | .ok v => (src.checkEnd (stop.getD 0)).map fun _ => v

end DeviceAdmission.Json
