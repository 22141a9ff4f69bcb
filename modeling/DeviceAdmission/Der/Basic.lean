/-!
# Elements of DER

Tag, length and content. A reader takes octets and gives what it read with the octets that follow.
A fault is either a lack of octets, which says how many are missing, or a violation of the encoding.
-/
namespace DeviceAdmission.Der

abbrev Octets := List UInt8

inductive Fault where
  /-- The octets end too early; so many more are needed. -/
  | incomplete (missing : Nat)
  /-- The octets end within a container. -/
  | endOfContent
  | unexpectedTag (expected actual : Nat)
  | badTag
  | badLength
  | indefiniteLength
  /-- A primitive element is marked as constructed. -/
  | constructed
  deriving DecidableEq, Repr

/-- The tag number of a sequence. -/
def sequenceTag : Nat := 16

/-- The tag number of a set. -/
def setTag : Nat := 17

/-- The class of an element whose tag is chosen by its context. -/
def contextClass : Nat := 2

structure Header where
  tagClass : Nat
  isConstructed : Bool
  tag : Nat
  length : Nat
  deriving DecidableEq, Repr

/-- An element with its content. -/
structure Element where
  header : Header
  content : Octets
  deriving DecidableEq, Repr

/-- The octets of a tag number that does not fit the first octet, seven bits in each, at most five
of them. -/
def longTag : Nat → Nat → Octets → Except Fault (Nat × Octets)
  | 0, _, _ => .error .badTag
  | _, _, [] => .error .badTag
  | fuel + 1, acc, b :: rest =>
    let next := (acc * 128 + b.toNat % 128) % 0x1_0000_0000
    if b.toNat < 128 then .ok (next, rest) else longTag fuel next rest

def bigEndian (octets : Octets) : Nat := octets.foldl (fun n b => 256 * n + b.toNat) 0

/-- The length after a tag: one octet, or the number of octets that hold it. -/
def readLength : Octets → Except Fault (Nat × Octets)
  | [] => .error (.incomplete 1)
  | b :: rest =>
    let n := b.toNat
    if n < 128 then .ok (n, rest)
    else if n == 128 then .error .indefiniteLength
    else if n == 255 then .error .badLength
    else
      let count := n - 128
      if rest.length < count then .error (.incomplete (count - rest.length))
      else
        let value := bigEndian (rest.take count)
        if 0x1_0000_0000_0000_0000 ≤ value then .error .badLength else .ok (value, rest.drop count)

def readHeader : Octets → Except Fault (Header × Octets)
  | [] => .error (.incomplete 1)
  | b :: rest => do
    let n := b.toNat
    let (tag, rest) ← if n % 32 == 31 then longTag 5 0 rest else .ok (n % 32, rest)
    let (length, rest) ← readLength rest
    return (⟨n / 64, n / 32 % 2 == 1, tag, length⟩, rest)

/-- An element of any kind. -/
def readElement (octets : Octets) : Except Fault (Element × Octets) := do
  let (header, rest) ← readHeader octets
  if rest.length < header.length then .error (.incomplete (header.length - rest.length))
  else return (⟨header, rest.take header.length⟩, rest.drop header.length)

/-- The content of an element with a tag number. The class of the tag does not matter. -/
def readContainer (tag : Nat) (octets : Octets) : Except Fault (Octets × Octets) := do
  let (header, rest) ← readHeader octets
  if rest.length < header.length then .error .endOfContent
  else if header.tag != tag then .error (.unexpectedTag tag header.tag)
  else return (rest.take header.length, rest.drop header.length)

/-- Repeats a reader until it fails or the octets end; each success must take octets. -/
def readMany {α : Type} (read : Octets → Option (α × Octets)) :
    Nat → Octets → List α × Octets
  | 0, octets => ([], octets)
  | fuel + 1, octets =>
    match read octets with
    | none => ([], octets)
    | some (a, rest) =>
      let (more, last) := readMany read fuel rest
      (a :: more, last)

/-- The content of a primitive element of any tag. -/
def readPrimitive (octets : Octets) : Except Fault (Octets × Octets) := do
  let (e, rest) ← readElement octets
  if e.header.isConstructed then .error .constructed else return (e.content, rest)

/-- How many low bits of an octet are zero. -/
def trailingZeros (b : UInt8) : Nat :=
  ((List.range 8).find? fun i => b.toNat.testBit i).getD 8

/-- Whether an element's content is that of a bit string: a count of unused bits, which are zero. -/
def isBitContent (e : Element) : Bool :=
  !e.header.isConstructed &&
    match e.content with
    | [] => false
    | [unused] => unused == 0
    | unused :: bits => unused.toNat ≤ trailingZeros (bits.getLastD 0)

/-- Skips a bit string. -/
def skipBitString (octets : Octets) : Option Octets :=
  match readElement octets with
  | .ok (e, rest) => if e.header.tag == 3 && isBitContent e then some rest else none
  | .error _ => none

/-- The arcs of an object identifier: the first octet holds two, further ones seven bits each. An
arc that breaks off counts as it stands. -/
def arcs : Octets → List Nat
  | [] => []
  | first :: rest =>
    let (done, pending) := rest.foldl (fun (done, pending) b =>
      let n := (pending.getD 0) * 128 + b.toNat % 128
      if b.toNat < 128 then (n :: done, none) else (done, some n)) (([] : List Nat), none)
    (first.toNat / 40) :: (first.toNat % 40) :: (done.reverse ++ pending.toList)

/-- An object identifier in dotted form. -/
def dotted (content : Octets) : String := ".".intercalate ((arcs content).map toString)

end DeviceAdmission.Der
