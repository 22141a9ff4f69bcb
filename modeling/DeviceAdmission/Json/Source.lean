/-!
# JSON text with positions

The octets of a document, what can go wrong while they are read, and the line and column of an
octet. A fault stands either at the octets consumed so far or one further, at the octet looked at.
-/
namespace DeviceAdmission.Json

/-- What breaks the grammar. -/
inductive Defect where
  | eofInList | eofInObject | eofInString | eofInValue
  | colonExpected | listCommaOrEndExpected | objectCommaOrEndExpected
  | literalExpected | valueExpected
  | badEscape | badNumber | numberOutOfRange | controlCharacter
  | keyNotText | loneSurrogate | trailingComma | trailingCharacters | escapeCutShort
  | tooDeep
  deriving DecidableEq, Repr

def Defect.message : Defect → String
  | .eofInList => "EOF while parsing a list"
  | .eofInObject => "EOF while parsing an object"
  | .eofInString => "EOF while parsing a string"
  | .eofInValue => "EOF while parsing a value"
  | .colonExpected => "expected `:`"
  | .listCommaOrEndExpected => "expected `,` or `]`"
  | .objectCommaOrEndExpected => "expected `,` or `\x7d`"
  | .literalExpected => "expected ident"
  | .valueExpected => "expected value"
  | .badEscape => "invalid escape"
  | .badNumber => "invalid number"
  | .numberOutOfRange => "number out of range"
  | .controlCharacter => "control character (\\u0000-\\u001F) found while parsing a string"
  | .keyNotText => "key must be a string"
  | .loneSurrogate => "lone leading surrogate in hex escape"
  | .trailingComma => "trailing comma"
  | .trailingCharacters => "trailing characters"
  | .escapeCutShort => "unexpected end of hex escape"
  | .tooDeep => "recursion limit exceeded"

/-- A defect and the number of octets before it. -/
structure Fault where
  defect : Defect
  offset : Nat
  deriving DecidableEq, Repr

/-- Lines and columns count from one; a column counts octets since the line began. -/
structure Position where
  line : Nat
  column : Nat
  deriving DecidableEq, Repr

/-- The octets of a document. -/
structure Source where
  octets : Array UInt8

namespace Source

def ofString (text : String) : Source := ⟨text.toUTF8.data⟩

def size (src : Source) : Nat := src.octets.size

def at? (src : Source) (i : Nat) : Option UInt8 := src.octets[i]?

/-- A fault at the octets consumed so far. -/
def fault (_ : Source) (defect : Defect) (i : Nat) : Fault := ⟨defect, i⟩

/-- A fault at the octet looked at next, which at the end of the text is the end itself. -/
def faultAhead (src : Source) (defect : Defect) (i : Nat) : Fault :=
  ⟨defect, min src.size (i + 1)⟩

/-- The position after the first `offset` octets. -/
def position (src : Source) (offset : Nat) : Position :=
  (src.octets.toList.take offset).foldl
    (fun p b => if b == 10 then ⟨p.line + 1, 0⟩ else ⟨p.line, p.column + 1⟩) ⟨1, 0⟩

def isBlank (b : UInt8) : Bool := b == 32 || b == 10 || b == 9 || b == 13

def isDigit (b : UInt8) : Bool := 48 ≤ b && b ≤ 57

/-- The first index from `i` on, within `fuel` octets, whose octet is not of a class. -/
def skip (src : Source) (p : UInt8 → Bool) : Nat → Nat → Nat
  | 0, i => i
  | fuel + 1, i => if (src.at? i).any p then src.skip p fuel (i + 1) else i

def skipBlanks (src : Source) (i : Nat) : Nat := src.skip isBlank src.size i

def skipDigits (src : Source) (i : Nat) : Nat := src.skip isDigit src.size i

end Source

end DeviceAdmission.Json
