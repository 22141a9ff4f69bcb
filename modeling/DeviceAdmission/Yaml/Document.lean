import DeviceAdmission.Yaml.Event

/-!
# Documents and their nodes

The first document of a text as a row of parts, and the trees that parts form. Where a text is
broken, the row ends early and the trees have missing nodes: what comes before can still be read.
-/
namespace DeviceAdmission.Yaml

inductive PartKind where
  /-- The node of an anchor, by the anchor's number. -/
  | same (number : Nat)
  | scalar (tag : Option Uri) (text : String) (style : Style)
  | sequenceStart (tag : Option Uri)
  | sequenceEnd
  | mappingStart (tag : Option Uri)
  | mappingEnd
  deriving DecidableEq, Repr

structure Part where
  kind : PartKind
  mark : Mark
  deriving DecidableEq, Repr

structure Document where
  parts : List Part
  /-- What breaks the text after the parts. -/
  fault : Option Fault
  /-- The part where the node of an anchor's number begins; the first entry of a number counts. -/
  anchors : List (Nat × Nat)
  /-- Whether anything follows the document. -/
  followed : Bool

/-! ## Anchors -/

/-- The anchors so far. -/
structure Anchors where
  /-- The number of each name. -/
  names : List (String × Nat) := []
  targets : List (Nat × Nat) := []

/-- Numbers an anchor by the count of names before it. A name given again takes a new number without
adding to the count, so the next new name takes that number from it. -/
def Anchors.define (anchor : Option String) (index : Nat) (a : Anchors) : Anchors :=
  match anchor with
  | none => a
  | some name =>
    let number := a.names.length
    { names := (name, number) :: a.names.filter (·.1 != name)
      targets := (number, index) :: a.targets }

/-- Takes events up to the end of the first document. -/
def Document.gather (cut : Option Fault) : List Event → Nat → Anchors → List Part → Document
  | [], _, a, acc => ⟨acc.reverse, cut, a.targets, false⟩
  | event :: rest, index, a, acc =>
    let add (kind : PartKind) (a : Anchors) : Document :=
      Document.gather cut rest (index + 1) a (⟨kind, event.mark⟩ :: acc)
    match event.kind with
    | .documentStart => Document.gather cut rest index a acc
    | .documentEnd =>
      let followed := match rest with
        | [] => true
        | next :: _ => next.kind != .textEnd
      ⟨acc.reverse, none, a.targets, followed⟩
    | .textEnd => ⟨acc.reverse, none, a.targets, false⟩
    | .aliasName name =>
      match a.names.lookup name with
      | some number => add (.same number) a
      | none => ⟨acc.reverse, some (.alone .unknownAnchor event.mark), a.targets, false⟩
    | .scalar anchor tag text style => add (.scalar tag text style) (a.define anchor index)
    | .sequenceStart anchor tag => add (.sequenceStart tag) (a.define anchor index)
    | .sequenceEnd => add .sequenceEnd a
    | .mappingStart anchor tag => add (.mappingStart tag) (a.define anchor index)
    | .mappingEnd => add .mappingEnd a

/-- The first document of a text. -/
def Document.ofText (text : String) : Document :=
  let events := Events.ofText text.toList
  Document.gather events.fault events.events 0 {} []

/-! ## Trees -/

/-- A collection that is not closed lacks whatever follows its last member. -/
inductive Node where
  | scalar (mark : Mark) (tag : Option Uri) (text : String) (style : Style)
  | sequence (mark : Mark) (tag : Option Uri) (items : List Node) (closed : Bool)
  | mapping (mark : Mark) (tag : Option Uri) (entries : List (Node × Node)) (closed : Bool)
  | same (mark : Mark) (number : Nat)
  /-- The text holds no document. -/
  | void
  | missing

/-- An open collection; members stand last first. -/
inductive Frame where
  | sequence (mark : Mark) (tag : Option Uri) (items : List Node)
  | mapping (mark : Mark) (tag : Option Uri) (entries : List (Node × Node)) (key : Option Node)

namespace Frame

def add (node : Node) : Frame → Frame
  | sequence mark tag items => sequence mark tag (node :: items)
  | mapping mark tag entries none => mapping mark tag entries (some node)
  | mapping mark tag entries (some key) => mapping mark tag ((key, node) :: entries) none

/-- A key without a value gets a missing one. -/
def close (closed : Bool) : Frame → Node
  | sequence mark tag items => .sequence mark tag items.reverse closed
  | mapping mark tag entries key =>
    .mapping mark tag (((key.map (·, Node.missing)).toList ++ entries).reverse) closed

end Frame

namespace Node

/-- The tree when the parts run out inside some frames. -/
def cutShort : List Frame → Node
  | [] => .missing
  | frame :: outer =>
    outer.foldl (fun inner frame => (frame.add inner).close false) (frame.close false)

/-- The first tree that parts form inside open frames. -/
def ofPartsIn : List Frame → List Part → Node
  | frames, [] => cutShort frames
  | frames, part :: rest =>
    let complete (node : Node) (frames : List Frame) : Node :=
      match frames with
      | [] => node
      | frame :: outer => ofPartsIn (frame.add node :: outer) rest
    match part.kind with
    | .same number => complete (.same part.mark number) frames
    | .scalar tag text style => complete (.scalar part.mark tag text style) frames
    | .sequenceStart tag => ofPartsIn (.sequence part.mark tag [] :: frames) rest
    | .mappingStart tag => ofPartsIn (.mapping part.mark tag [] none :: frames) rest
    | .sequenceEnd | .mappingEnd =>
      match frames with
      | [] => .missing
      | frame :: outer => complete (frame.close true) outer

def ofParts (parts : List Part) : Node := ofPartsIn [] parts

end Node

namespace Document

def root (d : Document) : Node :=
  if d.parts.isEmpty && d.fault.isNone then .void else Node.ofParts d.parts

/-- The node itself, or the one that an alias stands for. -/
def resolve (d : Document) : Node → Node
  | .same _ number =>
    match d.anchors.lookup number with
    | some index => Node.ofParts (d.parts.drop index)
    | none => .missing
  | node => node

end Document

end DeviceAdmission.Yaml
