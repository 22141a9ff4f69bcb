import DeviceAdmission.Text.Hex
import DeviceAdmission.Yaml.Token.Basic

/-!
# Scalar tokens

The three ways to write a text: plain, between quotes, and as a block of lines. Line breaks inside
plain and quoted scalars fold: one break is a space, of several breaks the first is dropped.
-/
namespace DeviceAdmission.Yaml

/-! ## Gaps between words -/

/-- What has been passed since the last word of a scalar. Characters stand last first. -/
inductive Gap where
  | none
  | blanks (passed : List Char)
  /-- A backslash; the break after it is not part of the value. -/
  | escaped
  /-- Line breaks; the first one is absent when it was escaped. Blanks around breaks do not
  count. -/
  | lines (first : Option Char) (more : List Char)
  deriving DecidableEq, Repr

namespace Gap

def addBlank (c : Char) : Gap → Gap
  | none => blanks [c]
  | blanks passed => blanks (c :: passed)
  | gap => gap

def addBreak (c : Char) : Gap → Gap
  | none | blanks _ => lines (some (breakValue c)) []
  | escaped => lines Option.none []
  | lines first more => lines first (breakValue c :: more)

def holdsBreak : Gap → Bool
  | lines _ _ => true
  | _ => false

/-- What a gap between two words adds to the value, last character first. -/
def fold : Gap → List Char
  | none | escaped => []
  | blanks passed => passed
  | lines Option.none more => more
  | lines (some first) more =>
    if first == '\n' then (if more.isEmpty then [' '] else more) else more ++ [first]

end Gap

/-- A value from its characters, last first. -/
def valueOf (reversed : List Char) : String := String.ofList reversed.reverse

/-! ## Plain scalars -/

/-- Whether a plain scalar ends before a character inside brackets. -/
def isFlowIndicator (c : Char) : Bool :=
  c == ',' || c == '[' || c == ']' || c == '\x7b' || c == '\x7d'

/-- A plain scalar as read: its value, whether line breaks follow it, and what follows them. -/
structure PlainScalar where
  value : String
  brokenOff : Bool
  after : Cursor

/-- Reads a plain scalar. `margin` is the least column that continues it on further lines; inside
brackets every column does. -/
def scanPlain (inFlow : Bool) (margin : Nat) (start : Mark) :
    List Char → Mark → Gap → List Char → Except Fault PlainScalar
  | [], m, gap, acc => .ok ⟨valueOf acc, gap.holdsBreak, ⟨[], m⟩⟩
  | c :: rest, m, gap, acc =>
    if isBlank c then
      if gap.holdsBreak && m.column < margin && c == '\t' then
        .error (.during .scanningPlainScalar start .tabBeforeIndent m)
      else scanPlain inFlow margin start rest m.next (gap.addBlank c) acc
    else if startsPair c rest then scanPlain inFlow margin start rest m.insideBreak gap acc
    else if isBreak c then scanPlain inFlow margin start rest m.nextLine (gap.addBreak c) acc
    else if gap != .none && (!inFlow && m.column < margin || c == '#'
        || m.column == 0 && isDocumentIndicator (c :: rest)) then
      .ok ⟨valueOf acc, gap.holdsBreak, ⟨c :: rest, m⟩⟩
    else if inFlow && c == ':' && rest.head?.any (fun d => isFlowIndicator d || d == '?') then
      .error (.during .scanningPlainScalar start .unexpectedColon m)
    else if c == ':' && endsWord rest || inFlow && isFlowIndicator c then
      .ok ⟨valueOf acc, gap.holdsBreak, ⟨c :: rest, m⟩⟩
    else scanPlain inFlow margin start rest m.next .none (c :: (gap.fold ++ acc))

/-! ## Quoted scalars -/

/-- The character that an escape of one letter stands for. -/
def shortEscape? : Char → Option Char
  | '0' => some '\x00'
  | 'a' => some '\x07'
  | 'b' => some '\x08'
  | 't' => some '\t'
  | '\t' => some '\t'
  | 'n' => some '\n'
  | 'v' => some '\x0b'
  | 'f' => some '\x0c'
  | 'r' => some '\r'
  | 'e' => some '\x1b'
  | ' ' => some ' '
  | '"' => some '"'
  | '/' => some '/'
  | '\\' => some '\\'
  | 'N' => some '\u0085'
  | '_' => some '\u00a0'
  | 'L' => some '\u2028'
  | 'P' => some '\u2029'
  | _ => none

/-- How many hexadecimal digits follow the letter of an escape. -/
def escapeWidth? : Char → Option Nat
  | 'x' => some 2
  | 'u' => some 4
  | 'U' => some 8
  | _ => none

/-- The number that all of some hexadecimal digits spell. -/
def hexValue? (digits : List Char) : Option Nat :=
  digits.foldl (fun acc c => acc.bind fun n => (Text.Hex.value? c).map (16 * n + ·)) (some 0)

/-- The character of an escape whose backslash was passed, and the length of the rest of the
escape. A failure says where it lies, counted from the backslash. -/
def escape? (rest : List Char) : Except (Problem × Nat) (Char × Nat) :=
  match rest with
  | [] => .error (.unknownEscape, 0)
  | e :: digits =>
    match shortEscape? e, escapeWidth? e with
    | some c, _ => .ok (c, 1)
    | none, none => .error (.unknownEscape, 0)
    | none, some width =>
      match if (digits.take width).length < width then none else hexValue? (digits.take width) with
      | none => .error (.noHexDigit, 2)
      | some n =>
        if n.isValidChar then .ok (Char.ofNat n, width + 1) else .error (.badCodePoint, 2)

/-- Reads a scalar after its opening quote. `skip` characters belong to an escape already taken. -/
def scanQuoted (single : Bool) (start : Mark) :
    List Char → Nat → Mark → Gap → List Char → Except Fault (String × Cursor)
  | [], _, m, _, _ => .error (.during .scanningQuotedScalar start .endOfText m)
  | _ :: rest, skip + 1, m, gap, acc => scanQuoted single start rest skip m.next gap acc
  | c :: rest, 0, m, gap, acc =>
    if m.column == 0 && isDocumentIndicator (c :: rest) then
      .error (.during .scanningQuotedScalar start .documentIndicator m)
    else if isBlank c then scanQuoted single start rest 0 m.next (gap.addBlank c) acc
    else if startsPair c rest then scanQuoted single start rest 0 m.insideBreak gap acc
    else if isBreak c then scanQuoted single start rest 0 m.nextLine (gap.addBreak c) acc
    else if c == (if single then '\'' else '"') then
      if single && rest.head? == some '\'' then
        scanQuoted single start rest 1 m.next .none ('\'' :: (gap.fold ++ acc))
      else .ok (valueOf (gap.fold ++ acc), ⟨rest, m.next⟩)
    else if !single && c == '\\' then
      if rest.head?.any isBreak then
        scanQuoted single start rest 0 m.next .escaped (gap.fold ++ acc)
      else match escape? rest with
        | .ok (x, width) =>
          scanQuoted single start rest width m.next .none (x :: (gap.fold ++ acc))
        | .error (problem, distance) =>
          .error (.during .parsingQuotedScalar start problem (m.advance distance))
    else scanQuoted single start rest 0 m.next .none (c :: (gap.fold ++ acc))

/-! ## Block scalars -/

/-- What becomes of the breaks that end a block scalar: none is kept, one, or all. -/
inductive Chomping where
  | strip | clip | keep
  deriving DecidableEq, Repr

/-- The lines of a block scalar read so far; characters stand last first. -/
structure BlockLines where
  text : List Char := []
  /-- The break that ended the last line. -/
  ended : Option Char := none
  /-- The breaks of empty lines after it. -/
  empty : List Char := []
  /-- Whether the last line began with a blank. -/
  indented : Bool := false

namespace BlockLines

/-- Begins a line with its first character. In a folded scalar the break between two lines that do
not begin with blanks becomes a space, or nothing if empty lines follow it. -/
def begin (folded : Bool) (c : Char) (b : BlockLines) : BlockLines :=
  let joint :=
    if folded && b.ended == some '\n' && !b.indented && !isBlank c then
      if b.empty.isEmpty then [' '] else b.empty
    else b.empty ++ b.ended.toList
  { text := c :: (joint ++ b.text), ended := none, empty := [], indented := isBlank c }

def chomp (chomping : Chomping) (b : BlockLines) : String :=
  valueOf <| match chomping with
    | .strip => b.text
    | .clip => b.ended.toList ++ b.text
    | .keep => b.empty ++ b.ended.toList ++ b.text

end BlockLines

/-- The indentation of a block scalar that does not state it: that of its first line with text, or
of a longer line of blanks before it, but no less than `margin`. -/
def findIndent (margin : Nat) (start : Mark) : List Char → Mark → Nat → Except Fault Nat
  | [], m, widest => .ok (max (max widest m.column) (max margin 1))
  | c :: rest, m, widest =>
    if c == ' ' then findIndent margin start rest m.next widest
    else if c == '\t' then .error (.during .scanningBlockScalar start .tabInIndent m)
    else if startsPair c rest then findIndent margin start rest m.insideBreak widest
    else if isBreak c then findIndent margin start rest m.nextLine (max widest m.column)
    else .ok (max (max widest m.column) (max margin 1))

/-- Reads the lines of a block scalar. `inLine` says whether the indentation has been passed. -/
def scanLines (folded : Bool) (indent : Nat) (start : Mark) :
    List Char → Mark → Bool → BlockLines → Except Fault (BlockLines × Cursor)
  | [], m, _, b => .ok (b, ⟨[], m⟩)
  | c :: rest, m, inLine, b =>
    if startsPair c rest then scanLines folded indent start rest m.insideBreak inLine b
    else if inLine then
      if isBreak c then
        scanLines folded indent start rest m.nextLine false { b with ended := some (breakValue c) }
      else scanLines folded indent start rest m.next true { b with text := c :: b.text }
    else if m.column < indent && c == ' ' then
      scanLines folded indent start rest m.next false b
    else if m.column < indent && c == '\t' then
      .error (.during .scanningBlockScalar start .tabInIndent m)
    else if isBreak c then
      scanLines folded indent start rest m.nextLine false
        { b with empty := breakValue c :: b.empty }
    else if m.column == indent then
      scanLines folded indent start rest m.next true (b.begin folded c)
    else .ok (b, ⟨c :: rest, m⟩)

/-- The chomping indicator, if one stands here. -/
def chomping? : List Char → Option Chomping
  | '+' :: _ => some .keep
  | '-' :: _ => some .strip
  | _ => none

/-- The indentation indicator, if one stands here; zero is none. -/
def indentDigit? (c : Cursor) (start : Mark) : Except Fault (Option Nat) :=
  match c.head? with
  | some d =>
    if d == '0' then .error (.during .scanningBlockScalar start .zeroIndent c.mark)
    else if d.isDigit then .ok (some (d.toNat - 48))
    else .ok none
  | none => .ok none

/-- The two indicators of a block scalar, in either order, and where they end. -/
def scanBlockHeader (start : Mark) (c : Cursor) :
    Except Fault (Chomping × Option Nat × Cursor) := do
  match chomping? c.rest with
  | some chomping =>
    let c := c.skip 1
    match ← indentDigit? c start with
    | some n => return (chomping, some n, c.skip 1)
    | none => return (chomping, none, c)
  | none =>
    match ← indentDigit? c start with
    | none => return (.clip, none, c)
    | some n =>
      let c := c.skip 1
      match chomping? c.rest with
      | some chomping => return (chomping, some n, c.skip 1)
      | none => return (.clip, some n, c)

/-- Reads a block scalar from its `|` or `>`. `margin` is the least column inside the block that
holds it. -/
def scanBlock (folded : Bool) (margin : Nat) (c : Cursor) : Except Fault (String × Cursor) := do
  let start := c.mark
  let (chomping, stated, c) ← scanBlockHeader start (c.skip 1)
  let c := c.skipBlanks.skipComment
  if c.head?.any fun x => !isBreak x then
    throw (.during .scanningBlockScalar start .noLineEnd c.mark)
  let c := c.skipBreak
  let indent ← match stated with
    | some n => pure (margin - 1 + n)
    | none => findIndent margin start c.rest c.mark 0
  let (lines, c) ← scanLines folded indent start c.rest c.mark false {}
  return (lines.chomp chomping, c)

end DeviceAdmission.Yaml
