/-!
# Base 64

The reader of the standard alphabet of 64 digits. Four digits make three octets; `=` fills up a
group that makes fewer, and the bits it leaves over must be zero.
-/
namespace DeviceAdmission.Text.Base64

/-- The value of a digit. -/
def value? (c : Char) : Option Nat :=
  if 'A' ≤ c && c ≤ 'Z' then some (c.toNat - 65)
  else if 'a' ≤ c && c ≤ 'z' then some (c.toNat - 97 + 26)
  else if '0' ≤ c && c ≤ '9' then some (c.toNat - 48 + 52)
  else if c == '+' then some 62
  else if c == '/' then some 63
  else none

/-- The octets of a group of four. -/
def group? (a b c d : Char) : Option (List UInt8) := do
  let high := (← value? a) * 64 + (← value? b)
  if c == '=' && d == '=' then
    if high % 16 == 0 then some [UInt8.ofNat (high / 16)] else none
  else
    let middle := high * 64 + (← value? c)
    if d == '=' then
      if middle % 4 == 0 then some [UInt8.ofNat (middle / 1024), UInt8.ofNat (middle / 4)] else none
    else
      let low := middle * 64 + (← value? d)
      some [UInt8.ofNat (low / 65536), UInt8.ofNat (low / 256), UInt8.ofNat low]

/-- The octets that groups of four stand for. A group that is filled up may be followed by others.
-/
def decode? : List Char → Option (List UInt8)
  | [] => some []
  | a :: b :: c :: d :: rest => do
    let octets ← group? a b c d
    return octets ++ (← decode? rest)
  | _ => none

end DeviceAdmission.Text.Base64
