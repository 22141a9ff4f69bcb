/-!
# Hexadecimal text of bytes

Bytes are written as two lower-case digits each; reading accepts both letter cases and refuses odd
lengths and any other character.
-/
namespace DeviceAdmission.Text.Hex

/-- The lower-case digit of a value below sixteen. -/
def digit (n : Nat) : Char :=
  if n < 10 then Char.ofNat (48 + n) else Char.ofNat (87 + n)

/-- The value of a digit in either letter case. -/
def value? (c : Char) : Option Nat :=
  let n := c.toNat
  if 48 ≤ n ∧ n ≤ 57 then some (n - 48)
  else if 97 ≤ n ∧ n ≤ 102 then some (n - 87)
  else if 65 ≤ n ∧ n ≤ 70 then some (n - 55)
  else none

/-- Two digits for each byte, high half first. -/
def digits : List UInt8 → List Char
  | [] => []
  | b :: rest => digit (b.toNat / 16) :: digit (b.toNat % 16) :: digits rest

def encode (bytes : List UInt8) : String := String.ofList (digits bytes)

/-- Pairs of digits as bytes; a lone digit or a foreign character is refused. -/
def bytes? : List Char → Option (List UInt8)
  | [] => some []
  | [_] => none
  | a :: b :: rest =>
    match value? a, value? b, bytes? rest with
    | some high, some low, some tail => some (UInt8.ofNat (16 * high + low) :: tail)
    | _, _, _ => none

def decode? (text : String) : Option (List UInt8) := bytes? text.toList

/-- Lower-case digits of a number without leading zeros; zero is `0`. -/
def ofNat (n : Nat) : String := String.ofList (Nat.toDigits 16 n)

/-- Upper-case digits of a number, padded with zeros to a width. -/
def upperPadded (width n : Nat) : String :=
  let text := (Nat.toDigits 16 n).map Char.toUpper
  String.ofList (List.replicate (width - text.length) '0' ++ text)

end DeviceAdmission.Text.Hex
