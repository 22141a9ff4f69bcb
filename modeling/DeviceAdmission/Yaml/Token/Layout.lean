import DeviceAdmission.Yaml.Token.Property
import DeviceAdmission.Yaml.Token.Scalar

/-!
# The tokens of a text

Tokens are appended in the order of the text. A word may turn out to be the key of a mapping only
when a colon follows it; until then it is a candidate, and the tokens from it on are held back. When
a text is broken, the tokens before the break that were not held back still count.
-/
namespace DeviceAdmission.Yaml

/-- A place where a key may have begun: the number of its first token. A required candidate stands
at the indentation of its block, where nothing but a key can stand. -/
structure Candidate where
  number : Nat
  mark : Mark
  required : Bool
  deriving DecidableEq, Repr

/-- A candidate that turned out to be a key; `opens` says whether its mapping begins with it. -/
structure FoundKey where
  number : Nat
  mark : Mark
  opens : Bool
  deriving DecidableEq, Repr

/-- How far the tokens of a text have been read. -/
structure Layout where
  cursor : Cursor
  /-- The tokens, last first, without those of found keys. -/
  tokens : List Token := []
  count : Nat := 0
  found : List FoundKey := []
  /-- The candidate of the innermost brackets. -/
  candidate : Option Candidate := none
  /-- The candidates of the brackets around, innermost first; one for each level. -/
  outer : List (Option Candidate) := []
  /-- The columns of the open blocks, innermost first. -/
  indents : List Nat := []
  keyAllowed : Bool := true
  ended : Bool := false

namespace Layout

def inFlow (s : Layout) : Bool := !s.outer.isEmpty

/-- The least column inside the innermost block. -/
def margin (s : Layout) : Nat :=
  match s.indents with
  | [] => 0
  | column :: _ => column + 1

def mark (s : Layout) : Mark := s.cursor.mark

/-- Appends a token that ends where the cursor goes. -/
def push (kind : TokenKind) (start stop : Mark) (s : Layout) : Layout :=
  { s with tokens := ⟨kind, start, stop⟩ :: s.tokens, count := s.count + 1 }

/-- Appends a token of some characters at the cursor. -/
def indicator (kind : TokenKind) (width : Nat) (s : Layout) : Layout :=
  let after := s.cursor.skip width
  { s.push kind s.mark after.mark with cursor := after }

/-! ## Blocks -/

/-- Opens a block at the cursor, unless the column lies in the innermost one. -/
def openBlock (kind : TokenKind) (s : Layout) : Layout :=
  if !s.inFlow && s.margin ≤ s.mark.column then
    { s.push kind s.mark s.mark with indents := s.mark.column :: s.indents }
  else s

/-- How many of the open blocks end before a column. -/
def endedBlocks (column : Nat) (indents : List Nat) : Nat :=
  (indents.takeWhile (column < ·)).length

/-- Closes some of the innermost blocks. -/
def closeBlocks : Nat → Layout → Layout
  | 0, s => s
  | n + 1, s =>
    closeBlocks n { s.push .blockEnd s.mark s.mark with indents := s.indents.drop 1 }

/-- Closes the blocks that the column of the cursor has left. -/
def closeLeft (s : Layout) : Layout :=
  if s.inFlow then s else s.closeBlocks (endedBlocks s.mark.column s.indents)

/-- Closes every block. -/
def closeAll (s : Layout) : Layout := if s.inFlow then s else s.closeBlocks s.indents.length

/-! ## Candidates -/

/-- A required candidate that is given up leaves a line without its colon. -/
def giveUp (here : Mark) (candidate : Option Candidate) : Except Fault Unit :=
  match candidate with
  | some k =>
    if k.required then .error (.during .scanningSimpleKey k.mark .noColon here) else .ok ()
  | none => .ok ()

/-- The longest key, in characters. -/
def maxKeyLength : Nat := 1024

/-- A key lies on one line and is not too long. -/
def isStale (here : Mark) (k : Candidate) : Bool :=
  k.mark.line < here.line || k.mark.index + maxKeyLength < here.index

def refresh (here : Mark) (candidate : Option Candidate) : Except Fault (Option Candidate) :=
  if candidate.any (isStale here) then do giveUp here candidate; return none
  else return candidate

/-- Gives up the candidates that can no longer be keys. -/
def dropStale (s : Layout) : Except Fault Layout := do
  let outer ← s.outer.mapM (refresh s.mark)
  let candidate ← refresh s.mark s.candidate
  return { s with candidate, outer }

/-- Gives up the candidate of the innermost brackets. -/
def dropCandidate (s : Layout) : Except Fault Layout := do
  giveUp s.mark s.candidate
  return { s with candidate := none }

/-- Makes a candidate of what begins at the cursor, if a key may stand there. -/
def addCandidate (s : Layout) : Except Fault Layout := do
  if s.keyAllowed then
    let s ← s.dropCandidate
    return { s with
      candidate := some ⟨s.count, s.mark, !s.inFlow && s.margin == s.mark.column + 1⟩ }
  else return s

/-- The number of tokens that are not held back by a candidate. -/
def readyCount (s : Layout) : Nat :=
  ((s.candidate :: s.outer).filterMap fun k => k.map (·.number)).foldl min s.count

/-! ## One token -/

/-- Passes blanks, comments and line breaks. Outside of brackets tabs are passed only where no key
may stand, and a new line may begin with a key. -/
def skipToToken : Nat → Layout → Layout
  | 0, s => s
  | fuel + 1, s =>
    let c := if s.mark.column == 0 && s.cursor.head? == some '\ufeff' then s.cursor.skip 1
      else s.cursor
    let c := c.skipWhile fun x => x == ' ' || (s.inFlow || !s.keyAllowed) && x == '\t'
    let c := c.skipComment
    if c.head?.any isBreak then
      skipToToken fuel { s with cursor := c.skipBreak, keyAllowed := s.keyAllowed || !s.inFlow }
    else { s with cursor := c }

/-- Puts the end of the text on a line of its own. -/
def forceNewLine (s : Layout) : Layout :=
  if s.mark.column == 0 then s
  else
    let mark := { s.mark with line := s.mark.line + 1, column := 0 }
    { s with cursor := { s.cursor with mark := mark } }

def pushEnd (s : Layout) : Except Fault Layout := do
  let s ← s.forceNewLine.closeAll.dropCandidate
  return { s.push .textEnd s.mark s.mark with keyAllowed := false, ended := true }

def pushDirective (s : Layout) : Except Fault Layout := do
  let s ← s.closeAll.dropCandidate
  let (kind, stop, after) ← scanDirective s.cursor
  return { s.push kind s.mark stop with cursor := after, keyAllowed := false }

def pushDocumentIndicator (kind : TokenKind) (s : Layout) : Except Fault Layout := do
  let s ← s.closeAll.dropCandidate
  return { s.indicator kind 3 with keyAllowed := false }

def pushFlowStart (kind : TokenKind) (s : Layout) : Except Fault Layout := do
  let s ← s.addCandidate
  return { s.indicator kind 1 with
    candidate := none, outer := s.candidate :: s.outer, keyAllowed := true }

def pushFlowEnd (kind : TokenKind) (s : Layout) : Except Fault Layout := do
  let s ← s.dropCandidate
  let s := match s.outer with
    | [] => s
    | candidate :: outer => { s with candidate, outer }
  return { s.indicator kind 1 with keyAllowed := false }

def pushFlowEntry (s : Layout) : Except Fault Layout := do
  let s ← s.dropCandidate
  return { s.indicator .flowEntry 1 with keyAllowed := true }

def pushBlockEntry (s : Layout) : Except Fault Layout := do
  if !s.inFlow && !s.keyAllowed then throw (.alone .entryNotAllowed s.mark)
  let s ← (s.openBlock .blockSequenceStart).dropCandidate
  return { s.indicator .blockEntry 1 with keyAllowed := true }

def pushKey (s : Layout) : Except Fault Layout := do
  if !s.inFlow && !s.keyAllowed then throw (.alone .keyNotAllowed s.mark)
  let s ← (s.openBlock .blockMappingStart).dropCandidate
  return { s.indicator .key 1 with keyAllowed := !s.inFlow }

/-- A colon makes a key of the candidate. Without one it follows an explicit or an empty key. -/
def pushValue (s : Layout) : Except Fault Layout := do
  match s.candidate with
  | some k =>
    let opens := !s.inFlow && s.margin ≤ k.mark.column
    let s := { s with
      found := ⟨k.number, k.mark, opens⟩ :: s.found
      indents := if opens then k.mark.column :: s.indents else s.indents
      candidate := none }
    return { s.indicator .value 1 with keyAllowed := false }
  | none =>
    if !s.inFlow && !s.keyAllowed then throw (.alone .valueNotAllowed s.mark)
    let s := s.openBlock .blockMappingStart
    return { s.indicator .value 1 with keyAllowed := !s.inFlow }

def pushAnchor (activity : Activity) (kind : String → TokenKind) (s : Layout) :
    Except Fault Layout := do
  let s ← s.addCandidate
  let (name, after) ← scanAnchor activity s.cursor
  return { s.push (kind name) s.mark after.mark with cursor := after, keyAllowed := false }

def pushTag (s : Layout) : Except Fault Layout := do
  let s ← s.addCandidate
  let (handle, suffix, after) ← scanTag s.inFlow s.cursor
  return { s.push (.tag handle suffix) s.mark after.mark with cursor := after, keyAllowed := false }

def pushBlockScalar (style : Style) (s : Layout) : Except Fault Layout := do
  let s ← s.dropCandidate
  let (text, after) ← scanBlock (style == .folded) s.margin s.cursor
  return { s.push (.scalar text style) s.mark after.mark with cursor := after, keyAllowed := true }

def pushQuoted (style : Style) (s : Layout) : Except Fault Layout := do
  let s ← s.addCandidate
  let c := s.cursor.skip 1
  let (text, after) ← scanQuoted (style == .singleQuoted) s.mark c.rest 0 c.mark .none []
  return { s.push (.scalar text style) s.mark after.mark with cursor := after, keyAllowed := false }

def pushPlain (s : Layout) : Except Fault Layout := do
  let s ← s.addCandidate
  let scalar ← scanPlain s.inFlow s.margin s.mark s.cursor.rest s.mark .none []
  return { s.push (.scalar scalar.value .plain) s.mark scalar.after.mark with
    cursor := scalar.after, keyAllowed := scalar.brokenOff }

/-- The characters that begin no plain scalar, wherever they stand. -/
def isReserved (c : Char) : Bool := ",[]\x7b\x7d#&*!|>'\"%@`".toList.contains c

/-- Whether a plain scalar may begin with a character. -/
def beginsPlain (inFlow : Bool) (c : Char) (rest : List Char) : Bool :=
  if c == '-' then !rest.head?.any isBlank
  else if c == '?' || c == ':' then !inFlow && !endsWord rest
  else !(isBlank c || isBreak c || isReserved c)

/-- Appends the token at the cursor, and the ends of blocks before it. -/
def pushNext (s : Layout) : Except Fault Layout := do
  let s ← (s.skipToToken (s.cursor.rest.length + 1)).dropStale
  let s := s.closeLeft
  let atStart := s.mark.column == 0
  match s.cursor.rest with
  | [] => s.pushEnd
  | c :: rest =>
    if atStart && c == '%' then s.pushDirective
    else if atStart && isDocumentIndicator (c :: rest) then
      s.pushDocumentIndicator (if c == '-' then .documentStart else .documentEnd)
    else if c == '[' then s.pushFlowStart .flowSequenceStart
    else if c == '\x7b' then s.pushFlowStart .flowMappingStart
    else if c == ']' then s.pushFlowEnd .flowSequenceEnd
    else if c == '\x7d' then s.pushFlowEnd .flowMappingEnd
    else if c == ',' then s.pushFlowEntry
    else if c == '-' && endsWord rest then s.pushBlockEntry
    else if c == '?' && (s.inFlow || endsWord rest) then s.pushKey
    else if c == ':' && (s.inFlow || endsWord rest) then s.pushValue
    else if c == '*' then s.pushAnchor .scanningAlias .aliasName
    else if c == '&' then s.pushAnchor .scanningAnchor .anchor
    else if c == '!' then s.pushTag
    else if c == '|' && !s.inFlow then s.pushBlockScalar .literal
    else if c == '>' && !s.inFlow then s.pushBlockScalar .folded
    else if c == '\'' then s.pushQuoted .singleQuoted
    else if c == '"' then s.pushQuoted .doubleQuoted
    else if beginsPlain s.inFlow c rest then s.pushPlain
    else throw (.during .scanningNextToken s.mark .noToken s.mark)

/-! ## All tokens -/

/-- The tokens before a number, with those of the found keys. -/
def resolved (s : Layout) (ready : Nat) : List Token :=
  ((s.tokens.reverse.take ready).zipIdx.map fun (token, number) =>
    match s.found.find? (·.number == number) with
    | none => [token]
    | some k =>
      let start : Token := ⟨.blockMappingStart, k.mark, k.mark⟩
      (if k.opens then [start] else []) ++ [⟨.key, k.mark, k.mark⟩, token]).flatten

end Layout

/-- The tokens of a text, and the fault that cuts them off. -/
structure Tokens where
  tokens : List Token
  fault : Option Fault
  deriving DecidableEq, Repr

/-- Reads tokens until the end or a fault; `ready` of them were not held back. -/
def Layout.run : Nat → Layout → Nat → Tokens
  | 0, s, ready => ⟨s.resolved ready, none⟩
  | fuel + 1, s, ready =>
    match s.pushNext with
    | .error f => ⟨s.resolved ready, some f⟩
    | .ok next =>
      match next.dropStale with
      | .error f => ⟨next.resolved ready, some f⟩
      | .ok next =>
        if next.ended then ⟨next.resolved next.count, none⟩ else next.run fuel next.readyCount

/-- The octet where the first character lies that may be in no text. -/
def forbiddenOctet? : List Char → Nat → Option Nat
  | [], _ => none
  | c :: rest, offset =>
    if isAllowed c then forbiddenOctet? rest (offset + c.utf8Size) else some offset

/-- The tokens of a text. A byte order mark before it counts in octets only; every token but the
last takes at least one character. -/
def Tokens.ofText (text : List Char) : Tokens :=
  let (text, offset) := match text with
    | '\ufeff' :: rest => (rest, 3)
    | text => (text, 0)
  match forbiddenOctet? text offset with
  | some n => ⟨[], some ⟨.controlCharacter, .octet n, none⟩⟩
  | none => Layout.run (text.length + 1) { cursor := ⟨text, .start⟩ } 0

end DeviceAdmission.Yaml
