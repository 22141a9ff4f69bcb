import DeviceAdmission.Yaml.Token.Layout

/-!
# Events: the grammar over tokens

A text is a sequence of events that open and close documents, sequences and mappings, with scalars
and aliases in between. Nodes that the text leaves out become empty plain scalars. The grammar is a
machine with a stack: one step gives one event.
-/
namespace DeviceAdmission.Yaml

inductive EventKind where
  | documentStart
  | documentEnd
  | textEnd
  | aliasName (name : String)
  | scalar (anchor : Option String) (tag : Option Uri) (text : String) (style : Style)
  | sequenceStart (anchor : Option String) (tag : Option Uri)
  | sequenceEnd
  | mappingStart (anchor : Option String) (tag : Option Uri)
  | mappingEnd
  deriving DecidableEq, Repr

structure Event where
  kind : EventKind
  mark : Mark
  deriving DecidableEq, Repr

/-- What the grammar expects next. Entries and keys say whether they are the first. -/
inductive Expectation where
  | document (first : Bool)
  | content
  | documentEnd
  | blockNode
  | blockEntry (first : Bool)
  | inlineEntry
  | blockKey (first : Bool)
  | blockValue
  | flowEntry (first : Bool)
  | pairKey
  | pairValue
  | pairEnd
  | flowKey (first : Bool)
  | flowValue
  | noFlowValue
  | nothing
  deriving DecidableEq, Repr

/-- What a handle expands to. -/
structure Handle where
  name : String
  expansion : Uri
  deriving DecidableEq, Repr

/-- The handles of every document. -/
def standardHandles : List Handle :=
  [⟨"!", "!".toUTF8.data.toList⟩, ⟨"!!", "tag:yaml.org,2002:".toUTF8.data.toList⟩]

structure Grammar where
  tokens : List Token
  expects : Expectation := .document true
  /-- What is expected after the open nodes, innermost first. -/
  later : List Expectation := []
  /-- Where the open collections began, innermost first. -/
  began : List Mark := []
  handles : List Handle := []

/-- Why a step gives no event: the tokens run out, or they break the grammar. -/
inductive Halt where
  | outOfTokens
  | fault (f : Fault)

namespace Grammar

def peek (g : Grammar) : Except Halt Token :=
  match g.tokens with
  | [] => .error .outOfTokens
  | token :: _ => .ok token

/-- Passes one token. -/
def pass (g : Grammar) : Grammar := { g with tokens := g.tokens.drop 1 }

/-- Goes back to what was expected after the node. -/
def leave (g : Grammar) : Grammar :=
  match g.later with
  | [] => { g with expects := .nothing }
  | expects :: later => { g with expects, later }

/-- Closes the innermost collection. -/
def close (g : Grammar) : Grammar := { g.leave with began := g.began.drop 1 }

/-- Opens a collection with the token ahead. -/
def enter (token : Token) (g : Grammar) : Grammar :=
  { g.pass with began := token.start :: g.began }

/-- A node that the text leaves out. -/
def leftOut (expects : Expectation) (mark : Mark) (g : Grammar) : Event × Grammar :=
  (⟨.scalar none none "" .plain, mark⟩, { g with expects })

/-- The grammar is broken inside the innermost collection. -/
def broken {α : Type} (activity : Activity) (problem : Problem) (token : Token) (g : Grammar) :
    Except Halt α :=
  .error (.fault (.during activity (g.began.headD token.start) problem token.start))

/-! ## Nodes -/

/-- The tag that a handle and a suffix stand for. -/
def resolveTag? (handles : List Handle) (handle : String) (suffix : Uri) : Option Uri :=
  if handle.isEmpty then some suffix
  else (handles.find? (·.name == handle)).map (·.expansion ++ suffix)

/-- The properties before a node. -/
structure Properties where
  start : Mark
  anchor : Option String := none
  /-- A tag as it is written, and where. -/
  tag : Option (String × Uri × Mark) := none

/-- Reads an anchor and a tag, in either order. -/
def properties (g : Grammar) : Except Halt (Properties × Grammar) := do
  let token ← g.peek
  match token.kind with
  | .anchor name =>
    let g := g.pass
    let next ← g.peek
    match next.kind with
    | .tag handle suffix =>
      return (⟨token.start, some name, some (handle, suffix, next.start)⟩, g.pass)
    | _ => return (⟨token.start, some name, none⟩, g)
  | .tag handle suffix =>
    let g := g.pass
    let next ← g.peek
    match next.kind with
    | .anchor name =>
      return (⟨token.start, some name, some (handle, suffix, token.start)⟩, g.pass)
    | _ => return (⟨token.start, none, some (handle, suffix, token.start)⟩, g)
  | _ => return (⟨token.start, none, none⟩, g)

/-- The tag that keeps a scalar from being anything but a text of its style. -/
def nonSpecific : Uri := "!".toUTF8.data.toList

/-- Reads a node. `block` says whether it may be a block collection, `inlined` whether it may be a
sequence at the indentation of its mapping. -/
def node (block inlined : Bool) (g : Grammar) : Except Halt (Event × Grammar) := do
  let token ← g.peek
  match token.kind with
  | .aliasName name => return (⟨.aliasName name, token.start⟩, g.leave.pass)
  | _ =>
    let (p, g) ← g.properties
    let token ← g.peek
    let tag ← match p.tag with
      | none => pure none
      | some (handle, suffix, mark) =>
        match resolveTag? g.handles handle suffix with
        | some tag => pure (some tag)
        | none => throw (.fault (.during .parsingNode p.start .undefinedHandle mark))
    let sequence (expects : Expectation) : Event × Grammar :=
      (⟨.sequenceStart p.anchor tag, p.start⟩, { g with expects })
    let mapping (expects : Expectation) : Event × Grammar :=
      (⟨.mappingStart p.anchor tag, p.start⟩, { g with expects })
    match token.kind with
    | .scalar text style =>
      let tag := if tag == some nonSpecific then none else tag
      return (⟨.scalar p.anchor tag text style, p.start⟩, g.leave.pass)
    | .flowSequenceStart => return sequence (.flowEntry true)
    | .flowMappingStart => return mapping (.flowKey true)
    | kind =>
      if inlined && kind == .blockEntry then return sequence .inlineEntry
      else if block && kind == .blockSequenceStart then return sequence (.blockEntry true)
      else if block && kind == .blockMappingStart then return mapping (.blockKey true)
      else if p.anchor.isSome || tag.isSome then
        return (⟨.scalar p.anchor tag "" .plain, p.start⟩, g.leave)
      else
        let activity := if block then Activity.parsingBlockNode else .parsingFlowNode
        throw (.fault (.during activity p.start .noNode token.start))

/-- A node, after which the grammar goes on as given. -/
def nodeThen (later : Expectation) (block inlined : Bool) (g : Grammar) :
    Except Halt (Event × Grammar) :=
  { g with later := later :: g.later }.node block inlined

/-! ## Documents -/

/-- Passes the tokens that end a document once more. -/
def passDocumentEnds : List Token → List Token
  | [] => []
  | token :: rest => if token.kind == .documentEnd then passDocumentEnds rest else token :: rest

/-- Adds a handle, unless it has been given. -/
def addHandle (handles : List Handle) (h : Handle) : List Handle :=
  if handles.any (·.name == h.name) then handles else handles ++ [h]

/-- Reads the directives before a document: one version at most, no handle twice. -/
def directives : List Token → Bool → List Handle → Except Halt (List Handle × List Token)
  | [], _, _ => .error .outOfTokens
  | token :: rest, versioned, handles =>
    match token.kind with
    | .versionDirective major minor =>
      if versioned then .error (.fault (.alone .duplicateVersion token.start))
      else if major != 1 || minor != 1 && minor != 2 then
        .error (.fault (.alone .wrongVersion token.start))
      else directives rest true handles
    | .handleDirective name expansion =>
      if handles.any (·.name == name) then
        .error (.fault (.alone .duplicateHandle token.start))
      else directives rest versioned (handles ++ [⟨name, expansion⟩])
    | _ => .ok (standardHandles.foldl addHandle handles, token :: rest)

/-- Reads the start of a document, or the end of the text. Only the first document may leave out
its start. -/
def document (first : Bool) (g : Grammar) : Except Halt (Event × Grammar) := do
  let g := if first then g else { g with tokens := passDocumentEnds g.tokens }
  let token ← g.peek
  match token.kind with
  | .textEnd => return (⟨.textEnd, token.start⟩, { g.pass with expects := .nothing })
  | kind =>
    let isExplicit := match kind with
      | .versionDirective _ _ | .handleDirective _ _ | .documentStart => true
      | _ => false
    let (handles, tokens) ← directives g.tokens false []
    let g := { g with handles, tokens, later := .documentEnd :: g.later }
    if first && !isExplicit then
      return (⟨.documentStart, token.start⟩, { g with expects := .blockNode })
    else
      let start ← g.peek
      if start.kind != .documentStart then
        throw (.fault (.alone .noDocumentStart start.start))
      return (⟨.documentStart, token.start⟩, { g.pass with expects := .content })

/-- The content of a document that was started explicitly. -/
def content (g : Grammar) : Except Halt (Event × Grammar) := do
  let token ← g.peek
  match token.kind with
  | .versionDirective _ _ | .handleDirective _ _ | .documentStart | .documentEnd | .textEnd =>
    let (event, g) := g.leftOut .nothing token.start
    return (event, g.leave)
  | _ => g.node true false

def endDocument (g : Grammar) : Except Halt (Event × Grammar) := do
  let token ← g.peek
  let g := if token.kind == .documentEnd then g.pass else g
  return (⟨.documentEnd, token.start⟩, { g with expects := .document false, handles := [] })

/-! ## Block collections -/

def blockEntry (first : Bool) (g : Grammar) : Except Halt (Event × Grammar) := do
  let g ← if first then do pure (g.enter (← g.peek)) else pure g
  let token ← g.peek
  match token.kind with
  | .blockEntry =>
    let g := g.pass
    match (← g.peek).kind with
    | .blockEntry | .blockEnd => return g.leftOut (.blockEntry false) token.stop
    | _ => g.nodeThen (.blockEntry false) true false
  | .blockEnd => return (⟨.sequenceEnd, token.start⟩, g.close.pass)
  | _ => g.broken .parsingBlockCollection .noEntry token

def inlineEntry (g : Grammar) : Except Halt (Event × Grammar) := do
  let token ← g.peek
  match token.kind with
  | .blockEntry =>
    let g := g.pass
    match (← g.peek).kind with
    | .blockEntry | .key | .value | .blockEnd => return g.leftOut .inlineEntry token.stop
    | _ => g.nodeThen .inlineEntry true false
  | _ => return (⟨.sequenceEnd, token.start⟩, g.leave)

def blockKey (first : Bool) (g : Grammar) : Except Halt (Event × Grammar) := do
  let g ← if first then do pure (g.enter (← g.peek)) else pure g
  let token ← g.peek
  match token.kind with
  | .key =>
    let g := g.pass
    match (← g.peek).kind with
    | .key | .value | .blockEnd => return g.leftOut .blockValue token.stop
    | _ => g.nodeThen .blockValue true true
  | .blockEnd => return (⟨.mappingEnd, token.start⟩, g.close.pass)
  | _ => g.broken .parsingBlockMapping .noKey token

def blockValue (g : Grammar) : Except Halt (Event × Grammar) := do
  let token ← g.peek
  match token.kind with
  | .value =>
    let g := g.pass
    match (← g.peek).kind with
    | .key | .value | .blockEnd => return g.leftOut (.blockKey false) token.stop
    | _ => g.nodeThen (.blockKey false) true true
  | _ => return g.leftOut (.blockKey false) token.start

/-! ## Flow collections -/

/-- Passes the comma between two entries. -/
def passComma (first : Bool) (activity : Activity) (problem : Problem) (g : Grammar) :
    Except Halt Grammar := do
  if first then return g
  let token ← g.peek
  if token.kind == .flowEntry then return g.pass else g.broken activity problem token

def flowEntry (first : Bool) (g : Grammar) : Except Halt (Event × Grammar) := do
  let g ← if first then do pure (g.enter (← g.peek)) else pure g
  let token ← g.peek
  if token.kind == .flowSequenceEnd then return (⟨.sequenceEnd, token.start⟩, g.close.pass)
  let g ← g.passComma first .parsingFlowSequence .noListEnd
  let token ← g.peek
  match token.kind with
  | .key => return (⟨.mappingStart none none, token.start⟩, { g.pass with expects := .pairKey })
  | .flowSequenceEnd => return (⟨.sequenceEnd, token.start⟩, g.close.pass)
  | _ => g.nodeThen (.flowEntry false) false false

/-- The key of a pair in a sequence. A key that is left out takes the token after it along. -/
def pairKey (g : Grammar) : Except Halt (Event × Grammar) := do
  let token ← g.peek
  match token.kind with
  | .value | .flowEntry | .flowSequenceEnd => return g.pass.leftOut .pairValue token.stop
  | _ => g.nodeThen .pairValue false false

def pairValue (g : Grammar) : Except Halt (Event × Grammar) := do
  let token ← g.peek
  if token.kind == .value then
    let g := g.pass
    let token ← g.peek
    match token.kind with
    | .flowEntry | .flowSequenceEnd => return g.leftOut .pairEnd token.start
    | _ => g.nodeThen .pairEnd false false
  else return g.leftOut .pairEnd token.start

def pairEnd (g : Grammar) : Except Halt (Event × Grammar) := do
  let token ← g.peek
  return (⟨.mappingEnd, token.start⟩, { g with expects := .flowEntry false })

def flowKey (first : Bool) (g : Grammar) : Except Halt (Event × Grammar) := do
  let g ← if first then do pure (g.enter (← g.peek)) else pure g
  let token ← g.peek
  if token.kind == .flowMappingEnd then return (⟨.mappingEnd, token.start⟩, g.close.pass)
  let g ← g.passComma first .parsingFlowMapping .noMappingEnd
  let token ← g.peek
  match token.kind with
  | .key =>
    let g := g.pass
    let token ← g.peek
    match token.kind with
    | .value | .flowEntry | .flowMappingEnd => return g.leftOut .flowValue token.start
    | _ => g.nodeThen .flowValue false false
  | .flowMappingEnd => return (⟨.mappingEnd, token.start⟩, g.close.pass)
  | _ => g.nodeThen .noFlowValue false false

def flowValue (g : Grammar) : Except Halt (Event × Grammar) := do
  let token ← g.peek
  if token.kind == .value then
    let g := g.pass
    let token ← g.peek
    match token.kind with
    | .flowEntry | .flowMappingEnd => return g.leftOut (.flowKey false) token.start
    | _ => g.nodeThen (.flowKey false) false false
  else return g.leftOut (.flowKey false) token.start

/-! ## All events -/

/-- The next event. -/
def step (g : Grammar) : Except Halt (Event × Grammar) :=
  match g.expects with
  | .document first => g.document first
  | .content => g.content
  | .documentEnd => g.endDocument
  | .blockNode => g.node true false
  | .blockEntry first => g.blockEntry first
  | .inlineEntry => g.inlineEntry
  | .blockKey first => g.blockKey first
  | .blockValue => g.blockValue
  | .flowEntry first => g.flowEntry first
  | .pairKey => g.pairKey
  | .pairValue => g.pairValue
  | .pairEnd => g.pairEnd
  | .flowKey first => g.flowKey first
  | .flowValue => g.flowValue
  | .noFlowValue => do return g.leftOut (.flowKey false) (← g.peek).start
  | .nothing => .error .outOfTokens

end Grammar

/-- The events of a text, and the fault that cuts them off. -/
structure Events where
  events : List Event
  fault : Option Fault
  deriving DecidableEq, Repr

/-- Takes steps until the text ends or a step fails; `cut` is the fault that cut off the tokens. -/
def Grammar.run (cut : Option Fault) : Nat → Grammar → Events
  | 0, _ => ⟨[], cut⟩
  | fuel + 1, g =>
    match g.step with
    | .error .outOfTokens => ⟨[], cut⟩
    | .error (.fault f) => ⟨[], some f⟩
    | .ok (event, next) =>
      if event.kind == .textEnd then ⟨[event], none⟩
      else
        let rest := Grammar.run cut fuel next
        ⟨event :: rest.events, rest.fault⟩

/-- The events of a text. No token takes more than four steps. -/
def Events.ofText (text : List Char) : Events :=
  let tokens := Tokens.ofText text
  Grammar.run tokens.fault (4 * tokens.tokens.length + 4) { tokens := tokens.tokens }

end DeviceAdmission.Yaml
