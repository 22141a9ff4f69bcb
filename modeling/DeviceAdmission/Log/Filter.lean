import DeviceAdmission.Decimal.Fraction
import DeviceAdmission.Log.Level
import DeviceAdmission.Text.Alphanumeric
import DeviceAdmission.Text.Blank

/-!
# Log filters

A filter is a set of directives. A directive sets the most verbose level for the records of a
target, and may ask for a span and for fields with values. The most specific directive that a record
matches decides about it; what depends on a span never lets a record through here, since no spans
are open.
-/
namespace DeviceAdmission.Log

/-- The most verbose level that passes; none passes when it is off. -/
abbrev Limit := Option Level

namespace Limit

def text : Limit → String
  | none => "off"
  | some level => level.name

def number : Limit → Nat
  | none => 0
  | some level => level.number

/-- A limit by its number from zero or by its name in any letter case. -/
def parse? (s : String) : Option Limit :=
  match Level.number? s with
  | some n => if n == 0 then some none else (Level.all.find? (·.number == n)).map some
  | none => if s.toLower == "off" then some none else (Level.parse? s).map some

end Limit

/-! ## Fields -/

/-- The value that a directive asks of a field. -/
inductive FieldValue where
  | bool (b : Bool)
  | fraction (x : Decimal.Fraction)
  | whole (n : Int)
  /-- A pattern of texts. -/
  | pattern (s : String)
  deriving DecidableEq, Repr

structure FieldMatch where
  name : String
  value : Option FieldValue
  deriving DecidableEq, Repr

/-- A whole number of 64 bits in base ten, with or without a sign. -/
def wholeNumber? (s : String) : Option Int :=
  let (negative, digits) := match s.toList with
    | '-' :: rest => (true, rest)
    | '+' :: rest => (false, rest)
    | digits => (false, digits)
  if digits.isEmpty || !digits.all Char.isDigit then none
  else
    let n := Nat.ofDigitChars 10 digits 0
    if negative then if n ≤ 0x8000_0000_0000_0000 then some (-(n : Int)) else none
    else if n < 0x1_0000_0000_0000_0000 then some n else none

/-- A fraction with or without a sign, or one of the names of infinity and of no number. -/
def fractionNumber? (s : String) : Option Decimal.Fraction :=
  let (negative, rest) := match s.toList with
    | '-' :: rest => (true, rest)
    | '+' :: rest => (false, rest)
    | rest => (false, rest)
  let name := (String.ofList rest).toLower
  if name == "inf" || name == "infinity" then some (.infinite negative)
  else if name == "nan" then some .notANumber
  else (Decimal.decimal? rest).map fun x => .finite (if negative then x.negate else x)

namespace FieldValue

def parse (s : String) : FieldValue :=
  if s == "true" then .bool true
  else if s == "false" then .bool false
  else match wholeNumber? s with
    | some n => .whole n
    | none =>
      match fractionNumber? s with
      | some x => .fraction x
      | none => .pattern s

/-- Whole fractions are written without a point. -/
def text : FieldValue → String
  | .bool b => toString b
  | .fraction x =>
    let t := x.text
    if t.endsWith ".0" then (t.dropEnd 2).toString else t
  | .whole n => toString n
  | .pattern s => s

end FieldValue

namespace FieldMatch

/-- A name, and the value between the first and the second equals sign. -/
def parse (s : String) : FieldMatch :=
  match s.splitOn "=" with
  | name :: value :: _ => ⟨name, some (.parse value)⟩
  | _ => ⟨s, none⟩

def text (f : FieldMatch) : String :=
  f.name ++ match f.value with
    | some v => "=" ++ v.text
    | none => ""

end FieldMatch

/-! ## Directives -/

structure Directive where
  target : Option String := none
  span : Option String := none
  fields : List FieldMatch := []
  limit : Limit := some .trace
  deriving DecidableEq, Repr

/-- How far a directive has been read; numbers are octets from its first character. -/
inductive Reading where
  | start
  | limitOrTarget (began : Nat)
  | span (began : Nat)
  | field (began : Nat)
  | fields
  | target
  | limit (began : Nat)
  deriving DecidableEq, Repr

/-- The text between two octets, if no character is cut. -/
def slice? (octets : List UInt8) (began stop : Nat) : Option String :=
  String.fromUTF8? ⟨((octets.take stop).drop began).toArray⟩

/-- Takes one character of a directive, `offset` octets after its first one. -/
def Directive.take (octets : List UInt8) (d : Directive) (reading : Reading) (offset : Nat)
    (c : Char) : Option (Directive × Reading) :=
  let next := offset + c.utf8Size
  match reading with
  | .start =>
    if c == '[' then some (d, .span next)
    else if c == '-' || c == ':' || c == '_' || Text.isAlphanumeric c then
      some (d, .limitOrTarget offset)
    else none
  | .limitOrTarget began =>
    if c == '=' then do
      return ({ d with target := some (← slice? octets began offset) }, .limit next)
    else if c == '[' then do
      return ({ d with target := some (← slice? octets began offset) }, .span next)
    else some (d, reading)
  | .target => if c == '=' then some (d, .limit next) else none
  | .span began =>
    if c == ']' then do return ({ d with span := some (← slice? octets began offset) }, .target)
    else if c == '\x7b' then do
      let name ← slice? octets began offset
      return ({ d with span := if name.isEmpty then none else some name }, .field next)
    else some (d, reading)
  | .field began =>
    if c == '\x7d' then do
      let s ← slice? octets began offset
      if s.isEmpty then none
      return ({ d with fields := d.fields ++ [.parse s] }, .fields)
    else some (d, reading)
  | .fields => if c == ']' then some (d, .target) else none
  | .limit _ => some (d, reading)

/-- Takes the characters of a directive one after another. -/
def Directive.takeAll (octets : List UInt8) :
    List Char → Nat → Directive × Reading → Option (Directive × Reading)
  | [], _, state => some state
  | c :: rest, offset, (d, reading) =>
    (d.take octets reading offset c).bind fun state =>
      Directive.takeAll octets rest (offset + c.utf8Size) state

/-- Reads a directive. Blanks around it are not taken, but count among its octets. A bare word is a
limit if it names one, else a target with every level. -/
def Directive.parse? (s : String) : Option Directive := do
  let octets := s.toUTF8.data.toList
  let (d, reading) ← Directive.takeAll octets (Text.trimBlank s).toList 0 ({}, .start)
  match reading with
  | .limitOrTarget began =>
    let word ← slice? octets began octets.length
    if word.isEmpty then return d
    match Limit.parse? word with
    | some limit => return { d with limit, target := none }
    | none => return { d with target := some word }
  | .limit began =>
    let word ← slice? octets began octets.length
    if word.isEmpty then return d
    return { d with limit := ← Limit.parse? word }
  | .target => return d
  | _ => none

namespace Directive

/-- Whether a record alone cannot decide about the directive. -/
def isDynamic (d : Directive) : Bool := d.span.isSome || !d.fields.isEmpty

/-- Whether the directive speaks of records by their target and the names of their fields alone. -/
def isStatic (d : Directive) : Bool := d.span.isNone && d.fields.all (·.value.isNone)

/-- What a directive says by the names of its fields. -/
def withoutValues (d : Directive) : Directive :=
  { d with fields := d.fields.map fun f => { f with value := none } }

def text (d : Directive) : String :=
  let fields := if d.fields.isEmpty then ""
    else "\x7b" ++ ",".intercalate (d.fields.map (·.text)) ++ "\x7d"
  let scope := if d.isDynamic then "[" ++ d.span.getD "" ++ fields ++ "]" else ""
  let subject := d.target.getD "" ++ scope
  let written := d.target.isSome || d.span.isSome || !d.fields.isEmpty
  subject ++ (if written then "=" else "") ++ d.limit.text

/-! ### Order -/

def compareTexts (a b : String) : Ordering := compareOfLessAndEq a b

/-- An absent value comes before every other. -/
def compareOptional {α : Type} (cmp : α → α → Ordering) : Option α → Option α → Ordering
  | none, none => .eq
  | none, some _ => .lt
  | some _, none => .gt
  | some a, some b => cmp a b

def compareLists {α : Type} (cmp : α → α → Ordering) : List α → List α → Ordering
  | [], [] => .eq
  | [], _ :: _ => .lt
  | _ :: _, [] => .gt
  | a :: as, b :: bs => (cmp a b).then (compareLists cmp as bs)

/-- Field values by kind, then by text. -/
def compareValues (a b : FieldValue) : Ordering :=
  let kind : FieldValue → Nat
    | .bool _ => 0
    | .fraction _ => 1
    | .whole _ => 2
    | .pattern _ => 3
  match a, b with
  | .bool x, .bool y => compare x.toNat y.toNat
  | .whole x, .whole y => compare x y
  | a, b => (compare (kind a) (kind b)).then (compareTexts a.text b.text)

def compareFields (a b : FieldMatch) : Ordering :=
  ((compare a.value.isSome.toNat b.value.isSome.toNat).then (compareTexts a.name b.name)).then
    (compareOptional compareValues a.value b.value)

/-- How specific directives are: by the length of the target, whether there is a span, and the
number of fields; among equally specific ones by their texts. -/
def specificity (a b : Directive) : Ordering :=
  let length (d : Directive) : Option Nat := d.target.map (·.utf8ByteSize)
  (((((compareOptional compare (length a) (length b)).then
    (compare a.span.isSome.toNat b.span.isSome.toNat)).then
    (compare a.fields.length b.fields.length)).then
    (compareOptional compareTexts a.target b.target)).then
    (compareOptional compareTexts a.span b.span)).then
    (compareLists compareFields a.fields b.fields)

/-- Adds a directive to a list, the most specific first; it replaces one for the same records. -/
def insert (d : Directive) : List Directive → List Directive
  | [] => [d]
  | e :: rest =>
    match specificity d e with
    | .gt => d :: e :: rest
    | .eq => d :: rest
    | .lt => e :: insert d rest

end Directive

/-! ## Filters -/

/-- The directives of a filter, the most specific first. -/
structure Filter where
  statics : List Directive
  dynamics : List Directive
  deriving DecidableEq, Repr

namespace Filter

/-- A directive on the names of fields alone speaks of spans and of records. -/
def ofDirectives (ds : List Directive) : Filter :=
  let (dynamics, plain) := ds.partition (·.isDynamic)
  let statics := plain ++ (dynamics.filter (·.isStatic)).map (·.withoutValues)
  ⟨statics.foldl (fun acc d => d.insert acc) [], dynamics.foldl (fun acc d => d.insert acc) []⟩

def ofLevel (level : Level) : Filter := ofDirectives [{ limit := some level }]

/-- Reads directives between commas; one that cannot be read spoils all. -/
def parse? (s : String) : Option Filter :=
  (((s.splitOn ",").filter (· != "")).mapM Directive.parse?).map ofDirectives

def text (f : Filter) : String :=
  ",".intercalate ((f.statics ++ f.dynamics).map (·.text))

/-- Whether a record of a level, a target and some fields passes. -/
def passes (f : Filter) (level : Level) (target : String) (fields : List String) : Bool :=
  let matching := f.statics.find? fun d =>
    d.target.all (fun t => target.startsWith t) && d.fields.all fun m => fields.contains m.name
  match matching with
  | some d => level.number ≤ d.limit.number
  | none => false

/-- The setting of the level is none. -/
inductive LevelError where
  | noLevel
  deriving DecidableEq, Repr

def LevelError.message : LevelError → String
  | .noLevel => "Invalid log level"

/-- What a level may be. -/
def LevelError.reason : LevelError → String
  | .noLevel =>
    "error parsing level: expected one of \"error\", \"warn\", \"info\", \"debug\", " ++
      "\"trace\", or a number 1-5"

/-- The filter of a process: the one that its environment asks for, if it can be read, else the
level. The level must be one in any case, unless `debug` stands for it. -/
def ofSettings (level : String) (debug : Bool) (environment : Option String) :
    Except LevelError Filter :=
  match if debug then some Level.debug else Level.parse? level with
  | none => .error .noLevel
  | some level => .ok ((environment.bind parse?).getD (ofLevel level))

end Filter

end DeviceAdmission.Log
