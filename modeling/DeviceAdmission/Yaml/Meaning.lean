import DeviceAdmission.Decimal.Fraction
import DeviceAdmission.Text.Hex
import DeviceAdmission.Yaml.Event

/-!
# What scalars mean

A plain scalar may mean null, a boolean, a whole number or a fraction; every other scalar is a text.
A tag can ask for one of these meanings, or keep a scalar from having one.
-/
namespace DeviceAdmission.Yaml

inductive Meaning where
  | null
  | bool (b : Bool)
  | whole (n : Int)
  | fraction (x : Decimal.Fraction)
  | text (s : String)
  deriving DecidableEq, Repr

/-! ## Null and booleans -/

def isNullWord (s : String) : Bool := ["null", "Null", "NULL", "~"].contains s

def bool? (s : String) : Option Bool :=
  if ["true", "True", "TRUE"].contains s then some true
  else if ["false", "False", "FALSE"].contains s then some false
  else none

/-! ## Whole numbers -/

/-- The number that one or more digits spell in a base up to sixteen. -/
def inBase? (base : Nat) (digits : List Char) : Option Nat :=
  if digits.isEmpty then none
  else digits.foldl (fun acc c => acc.bind fun n =>
    (Text.Hex.value? c).bind fun d => if d < base then some (base * n + d) else none) (some 0)

/-- Digits with a zero before them are a text, not a number. -/
def hasLeadingZero (cs : List Char) : Bool :=
  let digits := match cs with
    | '+' :: rest | '-' :: rest => rest
    | cs => cs
  match digits with
  | '0' :: d :: rest => (d :: rest).all Char.isDigit
  | _ => false

/-- A number without a sign: in base sixteen, eight or two after its mark, else in base ten. -/
def magnitude? : List Char → Option Nat
  | '0' :: 'x' :: rest => inBase? 16 rest
  | '0' :: 'o' :: rest => inBase? 8 rest
  | '0' :: 'b' :: rest => inBase? 2 rest
  | digits => if hasLeadingZero digits then none else inBase? 10 digits

/-- A number up to a limit, with or without a plus sign. -/
def unsigned? (limit : Nat) (s : String) : Option Nat :=
  let cs := s.toList
  (magnitude? (if cs.head? == some '+' then cs.drop 1 else cs)).filter (· ≤ limit)

/-- A number down to a limit, with its minus sign. -/
def negative? (limit : Nat) (s : String) : Option Int :=
  match s.toList with
  | '-' :: digits => ((magnitude? digits).filter (· ≤ limit)).map fun n => -(n : Int)
  | _ => none

/-- Whole numbers are read up to 128 bits, narrow ones first. -/
def whole? (s : String) : Option Int :=
  (unsigned? 0xFFFF_FFFF_FFFF_FFFF_FFFF_FFFF_FFFF_FFFF s).map (fun n => (n : Int)) <|>
    negative? 0x8000_0000_0000_0000_0000_0000_0000_0000 s

/-! ## Fractions -/

/-- A fraction with its sign. -/
def fraction? (s : String) : Option Decimal.Fraction :=
  let cs := s.toList
  let unsigned := if cs.head? == some '+' then cs.drop 1 else cs
  if [".inf", ".Inf", ".INF"].contains (String.ofList unsigned) then some (.infinite false)
  else if ["-.inf", "-.Inf", "-.INF"].contains s then some (.infinite true)
  else if [".nan", ".NaN", ".NAN"].contains s then some .notANumber
  else match cs with
    | '-' :: digits => (Decimal.decimal? digits).map fun x => .finite x.negate
    | _ => (Decimal.decimal? unsigned).map .finite

/-! ## Scalars -/

/-- What a plain scalar without a tag means. -/
def plainMeaning (s : String) : Meaning :=
  if s.isEmpty || isNullWord s then .null
  else match bool? s with
    | some b => .bool b
    | none =>
      match whole? s with
      | some n => .whole n
      | none =>
        if hasLeadingZero s.toList then .text s
        else match fraction? s with
          | some x => .fraction x
          | none => .text s

/-- A tag of the standard set. -/
def standardTag (name : String) : Uri := ("tag:yaml.org,2002:" ++ name).toUTF8.data.toList

/-- What a scalar means. A failure names the meaning that its tag asked for in vain. -/
def meaning (tag : Option Uri) (style : Style) (s : String) : Except String Meaning :=
  let asked (name : String) (m : Option Meaning) : Except String Meaning :=
    match m with
    | some m => .ok m
    | none => .error name
  match tag with
  | none => .ok (if style == .plain then plainMeaning s else .text s)
  | some tag =>
    if tag == standardTag "bool" then asked "a boolean" ((bool? s).map .bool)
    else if tag == standardTag "int" then asked "an integer" ((whole? s).map .whole)
    else if tag == standardTag "float" then asked "a float" ((fraction? s).map .fraction)
    else if tag == standardTag "null" then asked "null" (if isNullWord s then some .null else none)
    else if tag.head? == some 33 && style == .plain then .ok (plainMeaning s)
    else .ok (.text s)

/-- Whether a scalar is read by a meaning: it is plain, or a literal block whose tag asks for it. -/
def isReadAs (name : String) (tag : Option Uri) (style : Style) : Bool :=
  style == .plain || style == .literal && tag == some (standardTag name)

end DeviceAdmission.Yaml
