import DeviceAdmission.Text.Hex

/-!
# Texts of network addresses

Four octets in dotted form. Sixteen octets in groups with colons, where the longest run of at least
two zero groups is left out, the first of equally long ones; an address that stands for a dotted one
shows it.
-/
namespace DeviceAdmission.Certificate.Address

def dotted (octets : List UInt8) : String := ".".intercalate (octets.map fun b => toString b.toNat)

/-- Sixteen-bit groups of octets. -/
def groups : List UInt8 → List Nat
  | a :: b :: rest => (256 * a.toNat + b.toNat) :: groups rest
  | _ => []

/-- The length of the run of zeros at the front. -/
def zeroRun (gs : List Nat) : Nat := (gs.takeWhile (· == 0)).length

/-- The start and the length of the longest run of zeros, the first of equals. -/
def longestRun (gs : List Nat) : Nat × Nat :=
  (List.range gs.length).foldl (fun best i =>
    let n := zeroRun (gs.drop i)
    if best.2 < n then (i, n) else best) (0, 0)

def colons (gs : List Nat) : String := ":".intercalate (gs.map Text.Hex.ofNat)

def long (octets : List UInt8) : String :=
  let gs := groups octets
  if gs.take 6 == [0, 0, 0, 0, 0, 0xFFFF] then "::ffff:" ++ dotted (octets.drop 12)
  else
    let (start, length) := longestRun gs
    if length < 2 then colons gs
    else colons (gs.take start) ++ "::" ++ colons (gs.drop (start + length))

/-- The text of an address of four or sixteen octets. -/
def text? (octets : List UInt8) : Option String :=
  if octets.length == 4 then some (dotted octets)
  else if octets.length == 16 then some (long octets)
  else none

end DeviceAdmission.Certificate.Address
