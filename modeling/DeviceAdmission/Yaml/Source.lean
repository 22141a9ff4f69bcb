/-!
# Places and characters of a YAML text

A mark is a place in a text, counted in characters, lines and columns from zero. A cursor is a mark
with the text that follows it. Carriage return and line feed in a row are one line break.
-/
namespace DeviceAdmission.Yaml

/-- How many characters, line breaks, and characters of the line come before a place. -/
structure Mark where
  index : Nat
  line : Nat
  column : Nat
  deriving DecidableEq, Repr

namespace Mark

def start : Mark := ⟨0, 0, 0⟩

/-- The place `n` characters further on the line. -/
def advance (m : Mark) (n : Nat) : Mark := ⟨m.index + n, m.line, m.column + n⟩

def next (m : Mark) : Mark := m.advance 1

/-- The start of the next line, after a break of one character. -/
def nextLine (m : Mark) : Mark := ⟨m.index + 1, m.line + 1, 0⟩

/-- The place between the two characters of a line break. -/
def insideBreak (m : Mark) : Mark := { m with index := m.index + 1 }

/-- How a message names the place, counted from one. The start of the text is not named. -/
def suffix (m : Mark) : String :=
  if m.line == 0 && m.column == 0 then ""
  else " at line " ++ toString (m.line + 1) ++ " column " ++ toString (m.column + 1)

end Mark

/-! ## Characters -/

def isBlank (c : Char) : Bool := c == ' ' || c == '\t'

/-- Line feed, carriage return, next line, line separator, paragraph separator. -/
def isBreak (c : Char) : Bool :=
  c == '\n' || c == '\r' || c == '\u0085' || c == '\u2028' || c == '\u2029'

/-- The character that stands for a break in a value: the separators stand for themselves, every
other break for a line feed. -/
def breakValue (c : Char) : Char := if c == '\u2028' || c == '\u2029' then c else '\n'

/-- The characters of anchors, handles and directive names. -/
def isWord (c : Char) : Bool := c.isAlphanum || c == '_' || c == '-'

/-- Whether the text ends here, or the next character is a blank or a break. -/
def endsWord : List Char → Bool
  | [] => true
  | c :: _ => isBlank c || isBreak c

/-- Whether a text starts with `---` or `...` and a word ends after it. -/
def isDocumentIndicator : List Char → Bool
  | '-' :: '-' :: '-' :: rest => endsWord rest
  | '.' :: '.' :: '.' :: rest => endsWord rest
  | _ => false

/-- Whether a carriage return is the first half of a break. -/
def startsPair (c : Char) (rest : List Char) : Bool := c == '\r' && rest.head? == some '\n'

/-- The code points that a text may hold as they are. -/
def isAllowed (c : Char) : Bool :=
  let n := c.toNat
  n == 9 || n == 10 || n == 13 || (32 ≤ n && n ≤ 126) || n == 0x85 || (0xA0 ≤ n && n ≤ 0xFFFD) ||
    0x10000 ≤ n

/-! ## Cursors -/

structure Cursor where
  rest : List Char
  mark : Mark
  deriving DecidableEq, Repr

namespace Cursor

def head? (c : Cursor) : Option Char := c.rest.head?

/-- Passes `n` characters of the line. -/
def skip (c : Cursor) (n : Nat) : Cursor := ⟨c.rest.drop n, c.mark.advance n⟩

/-- Passes the characters of a kind that holds no breaks. -/
def skipWhile (c : Cursor) (p : Char → Bool) : Cursor :=
  c.skip (c.rest.takeWhile p).length

def skipBlanks (c : Cursor) : Cursor := c.skipWhile isBlank

/-- Passes what is left of the line. -/
def skipToBreak (c : Cursor) : Cursor := c.skipWhile fun x => !isBreak x

/-- Passes a comment, if one starts here. -/
def skipComment (c : Cursor) : Cursor := if c.head? == some '#' then c.skipToBreak else c

/-- Passes one line break, if one stands here. -/
def skipBreak (c : Cursor) : Cursor :=
  match c.rest with
  | [] => c
  | x :: rest =>
    if startsPair x rest then ⟨rest.drop 1, c.mark.insideBreak.nextLine⟩
    else if isBreak x then ⟨rest, c.mark.nextLine⟩
    else c

end Cursor

end DeviceAdmission.Yaml
