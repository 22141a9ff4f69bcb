import DeviceAdmission.Text.Hex
import DeviceAdmission.Yaml.Token.Basic

/-!
# Anchors, aliases, tags and directives

The tokens that are made of words. A tag is a handle with a suffix; a directive stands on a line of
its own and gives the version of the text or what a handle expands to.
-/
namespace DeviceAdmission.Yaml

/-! ## Anchors and aliases -/

/-- What may follow the name of an anchor. -/
def endsAnchor (rest : List Char) : Bool :=
  endsWord rest || rest.head?.any (fun c => "?:,]\x7d%@`".toList.contains c)

/-- Reads the name after `&` or `*`. -/
def scanAnchor (activity : Activity) (c : Cursor) : Except Fault (String × Cursor) :=
  let start := c.mark
  let c := c.skip 1
  let name := c.rest.takeWhile isWord
  let after := c.skip name.length
  if name.isEmpty || !endsAnchor after.rest then
    .error (.during activity start .badAnchor after.mark)
  else .ok (String.ofList name, after)

/-! ## Names of tags -/

/-- The octet that `%` and two hexadecimal digits stand for. -/
def hexOctet? : List Char → Option UInt8
  | '%' :: a :: b :: _ =>
    (Text.Hex.value? a).bind fun x => (Text.Hex.value? b).map fun y => UInt8.ofNat (16 * x + y)
  | _ => none

/-- How many octets a character takes whose first octet is this one. -/
def octetCount? (b : UInt8) : Option Nat :=
  if b < 0x80 then some 1
  else if 0xC0 ≤ b && b < 0xE0 then some 2
  else if 0xE0 ≤ b && b < 0xF0 then some 3
  else if 0xF0 ≤ b && b < 0xF8 then some 4
  else none

/-- The characters of a tag's name; inside angles and in expansions flow indicators are among
them. -/
def isUriCharacter (verbatim : Bool) (c : Char) : Bool :=
  isWord c || ";/?:@&=+$.%!~*'()".toList.contains c || verbatim && ",[]".toList.contains c

def octetsOf (c : Char) : List UInt8 := c.toString.toUTF8.data.toList

/-- Reads the characters of a tag's name. `pending` octets are still due of an escaped character;
the octets read stand last first. -/
def scanUri (activity : Activity) (verbatim : Bool) (start : Mark) :
    List Char → Nat → Nat → Mark → List UInt8 → Except Fault (List UInt8 × Cursor)
  | [], _, pending, m, acc =>
    if pending == 0 then .ok (acc, ⟨[], m⟩) else .error (.during activity start .noOctet m)
  | _ :: rest, skip + 1, pending, m, acc =>
    scanUri activity verbatim start rest skip pending m.next acc
  | c :: rest, 0, pending, m, acc =>
    if pending == 0 && !isUriCharacter verbatim c then .ok (acc, ⟨c :: rest, m⟩)
    else if pending == 0 && c != '%' then
      scanUri activity verbatim start rest 0 0 m.next ((octetsOf c).reverse ++ acc)
    else match hexOctet? (c :: rest) with
      | none => .error (.during activity start .noOctet m)
      | some octet =>
        if pending == 0 then
          match octetCount? octet with
          | none => .error (.during activity start .badLeadingOctet m)
          | some count => scanUri activity verbatim start rest 2 (count - 1) m.next (octet :: acc)
        else if octet &&& 0xC0 != 0x80 then
          .error (.during activity start .badTrailingOctet m)
        else scanUri activity verbatim start rest 2 (pending - 1) m.next (octet :: acc)

/-- Reads a tag's name after a beginning that was read as a handle; a zero octet ends the name. -/
def readUri (activity : Activity) (verbatim : Bool) (start : Mark) (beginning : String)
    (c : Cursor) : Except Fault (Uri × Cursor) := do
  let head := (String.ofList (beginning.toList.drop 1)).toUTF8.data.toList
  let (octets, after) ← scanUri activity verbatim start c.rest 0 0 c.mark []
  if octets.isEmpty && beginning.isEmpty then
    throw (.during activity start .noUri after.mark)
  return ((head ++ octets.reverse).takeWhile (· != 0), after)

/-- Reads `!`, a word, and `!` if it follows. -/
def readHandle (missing : Activity) (start : Mark) (c : Cursor) :
    Except Fault (String × Cursor) :=
  if c.head? != some '!' then .error (.during missing start .noTagMark c.mark)
  else
    let word := (c.skip 1).rest.takeWhile isWord
    let after := c.skip (1 + word.length)
    if after.head? == some '!' then .ok (String.ofList ('!' :: word ++ ['!']), after.skip 1)
    else .ok (String.ofList ('!' :: word), after)

/-- Whether a handle stands between two marks. -/
def isFullHandle (handle : String) : Bool := 2 ≤ handle.length && handle.toList.getLast? == some '!'

/-- Reads a tag: `!<name>`, `!handle!suffix` or `!suffix`. A lone `!` has no handle. -/
def scanTag (inFlow : Bool) (c : Cursor) : Except Fault (String × Uri × Cursor) := do
  let start := c.mark
  let (handle, suffix, after) ←
    if (c.skip 1).head? == some '<' then do
      let (name, after) ← readUri .parsingTag true start "" (c.skip 2)
      if after.head? != some '>' then
        throw (.during .scanningTag start .noTagEnd after.mark)
      pure ("", name, after.skip 1)
    else do
      let (handle, after) ← readHandle .scanningTag start c
      if isFullHandle handle then
        let (suffix, after) ← readUri .parsingTag false start "" after
        pure (handle, suffix, after)
      else
        let (suffix, after) ← readUri .parsingTag false start handle after
        if suffix.isEmpty then pure ("", "!".toUTF8.data.toList, after)
        else pure ("!", suffix, after)
  if endsWord after.rest || inFlow && after.head? == some ',' then return (handle, suffix, after)
  else throw (.during .scanningTag start .noBlankOrBreak after.mark)

/-! ## Directives -/

/-- The longest part of a version number. -/
def maxVersionDigits : Nat := 9

def scanVersionPart (start : Mark) (c : Cursor) : Except Fault (Nat × Cursor) :=
  let digits := c.rest.takeWhile Char.isDigit
  if maxVersionDigits < digits.length then
    .error (.during .scanningVersionDirective start .longVersion (c.mark.advance maxVersionDigits))
  else if digits.isEmpty then
    .error (.during .scanningVersionDirective start .noVersion c.mark)
  else .ok (digits.foldl (fun acc d => acc * 10 + (d.toNat - 48)) 0, c.skip digits.length)

def scanVersion (start : Mark) (c : Cursor) : Except Fault (TokenKind × Cursor) := do
  let (major, c) ← scanVersionPart start c.skipBlanks
  if c.head? != some '.' then
    throw (.during .scanningVersionDirective start .noVersionDot c.mark)
  let (minor, c) ← scanVersionPart start (c.skip 1)
  return (.versionDirective major minor, c)

def scanHandleDirective (start : Mark) (c : Cursor) : Except Fault (TokenKind × Cursor) := do
  let (handle, c) ← readHandle .scanningTagDirective start c.skipBlanks
  if handle != "!" && !isFullHandle handle then
    throw (.during .parsingTagDirective start .noTagMark c.mark)
  if !c.head?.any isBlank then
    throw (.during .scanningHandleDirective start .noBlank c.mark)
  let (expansion, c) ← readUri .parsingHandleDirective true start "" c.skipBlanks
  if !endsWord c.rest then
    throw (.during .scanningHandleDirective start .noBlankOrBreak c.mark)
  return (.handleDirective handle expansion, c)

/-- Reads a directive from its `%` to the end of its line; its token ends before blanks and
comments. -/
def scanDirective (c : Cursor) : Except Fault (TokenKind × Mark × Cursor) := do
  let start := c.mark
  let c := c.skip 1
  let name := c.rest.takeWhile isWord
  let c := c.skip name.length
  if name.isEmpty then throw (.during .scanningDirective start .noDirectiveName c.mark)
  if !endsWord c.rest then throw (.during .scanningDirective start .badDirectiveName c.mark)
  let (kind, c) ←
    if name == "YAML".toList then scanVersion start c
    else if name == "TAG".toList then scanHandleDirective start c
    else throw (.during .scanningDirective start .unknownDirective c.mark)
  let stop := c.mark
  let c := c.skipBlanks.skipComment
  if c.head?.any fun x => !isBreak x then
    throw (.during .scanningDirective start .noLineEnd c.mark)
  return (kind, stop, c.skipBreak)

end DeviceAdmission.Yaml
