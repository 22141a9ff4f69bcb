import DeviceAdmission.Json.Basic
import DeviceAdmission.Json.Source
import DeviceAdmission.Text.Hex

/-!
# Tokens of JSON text

Literals, numbers and strings, each with two readings: the strict one gives the value, the lenient
one only finds the end. The lenient reading accepts more: numbers out of range and lone surrogates.
-/
namespace DeviceAdmission.Json.Source

/-- The rest of a literal after its first letter. -/
def readLiteral (src : Source) : List UInt8 → Nat → Except Fault Nat
  | [], i => .ok i
  | c :: rest, i =>
    match src.at? i with
    | none => .error (src.fault .eofInValue i)
    | some b =>
      if b == c then src.readLiteral rest (i + 1)
      else .error (src.fault .literalExpected (i + 1))

/-! ## Numbers -/

/-- Where the parts of a number lie: the whole digits, the fraction digits, the exponent. -/
structure NumberSpan where
  negative : Bool
  wholeStart : Nat
  wholeStop : Nat
  fraction : Option (Nat × Nat)
  exponent : Option (Bool × Nat × Nat)

def NumberSpan.stop (s : NumberSpan) : Nat :=
  match s.exponent, s.fraction with
  | some (_, _, stop), _ => stop
  | none, some (_, stop) => stop
  | none, none => s.wholeStop

/-- The two readings differ only in what they call the end of the text. -/
structure Disagreement where
  strict : Fault
  lenient : Fault

/-- The same fault for both readings. -/
def both (f : Fault) : Disagreement := ⟨f, f⟩

/-- The exponent after its mark at `i`. -/
def spanExponent (src : Source) (i : Nat) : Except Disagreement (Bool × Nat × Nat) :=
  let (negative, start) := match src.at? (i + 1) with
    | some 43 => (false, i + 2)
    | some 45 => (true, i + 2)
    | _ => (false, i + 1)
  match src.at? start with
  | none => .error ⟨src.fault .eofInValue start, src.fault .badNumber start⟩
  | some b =>
    if isDigit b then .ok (negative, start, src.skipDigits start)
    else .error (both (src.fault .badNumber (start + 1)))

/-- The parts of a number whose first digit is expected at `i`. -/
def spanNumber (src : Source) (negative : Bool) (i : Nat) : Except Disagreement NumberSpan := do
  let wholeStop ← match src.at? i with
    | none => .error ⟨src.fault .eofInValue i, src.fault .badNumber i⟩
    | some b =>
      if b == 48 then
        if (src.at? (i + 1)).any isDigit then .error (both (src.faultAhead .badNumber (i + 1)))
        else .ok (i + 1)
      else if isDigit b then .ok (src.skipDigits i)
      else .error (both (src.fault .badNumber (i + 1)))
  let fraction ←
    if src.at? wholeStop == some 46 then
      let start := wholeStop + 1
      let stop := src.skipDigits start
      if stop == start then
        let strict := if stop < src.size then Defect.badNumber else .eofInValue
        .error ⟨src.faultAhead strict stop, src.faultAhead .badNumber stop⟩
      else .ok (some (start, stop))
    else .ok none
  let mark := (fraction.map (·.2)).getD wholeStop
  let exponent ←
    if src.at? mark == some 101 || src.at? mark == some 69 then some <$> src.spanExponent mark
    else .ok none
  return ⟨negative, i, wholeStop, fraction, exponent⟩

def maxUnsigned : Nat := 0xFFFF_FFFF_FFFF_FFFF

def maxExponent : Nat := 0x7FFF_FFFF

/-- Digits are taken while their value fits sixty-four bits; the rest are only counted. -/
def takeDigits (src : Source) (limit : Nat) : Nat → Nat → Nat → Nat × Nat
  | 0, i, acc => (acc, i)
  | fuel + 1, i, acc =>
    match src.at? i with
    | none => (acc, i)
    | some b =>
      let next := acc * 10 + (b.toNat - 48)
      if limit < next then (acc, i) else src.takeDigits limit fuel (i + 1) next

/-- A ten-power up to 308, correctly rounded. -/
def tenPower (n : Nat) : Decimal.Binary64 :=
  (Decimal.Binary64.ofDecimal? 1 n).getD Decimal.Binary64.zero

/-- A significand times a power of ten: the significand is rounded, then multiplied or divided by a
rounded ten-power, and rounded again. Powers below -308 take several divisions. -/
def scaleByTen : Nat → Decimal.Binary64 → Int → Option Decimal.Binary64
  | 0, _, _ => some .zero
  | fuel + 1, x, power =>
    if power.natAbs ≤ 308 then
      if 0 ≤ power then x.mul? (tenPower power.natAbs) else x.div? (tenPower power.natAbs)
    else if x.isZero then some x
    else if 0 ≤ power then none
    else (x.div? (tenPower 308)).bind fun y => scaleByTen fuel y (power + 308)

/-- The value of a number from its parts. A whole number that fits is exact, except that a negative
zero is a fraction. -/
def numberValue (src : Source) (s : NumberSpan) : Except Fault Number :=
  let signed (x : Decimal.Binary64) : Number := .fraction (if s.negative then x.negate else x)
  let (whole, wholeTaken) := src.takeDigits maxUnsigned (s.wholeStop - s.wholeStart) s.wholeStart 0
  let dropped := s.wholeStop - wholeTaken
  if dropped == 0 && s.fraction.isNone && s.exponent.isNone then
    if !s.negative then .ok (.whole whole)
    else if whole == 0 || 0x8000_0000_0000_0000 < whole then
      .ok (signed ((Decimal.Binary64.ofDecimal? whole 0).getD .zero))
    else .ok (.whole (-(whole : Int)))
  else
    let (digits, places) := match s.fraction with
      | none => (whole, 0)
      | some (start, stop) =>
        let (value, taken) := src.takeDigits maxUnsigned (stop - start) start whole
        (value, taken - start)
    let power : Int := (dropped : Int) - places
    let tooLarge (i : Nat) : Except Fault Number := .error (src.fault .numberOutOfRange i)
    let finish (power : Int) : Except Fault Number :=
      match scaleByTen 4 ((Decimal.Binary64.ofDecimal? digits 0).getD .zero) power with
      | some x => .ok (signed x)
      | none => tooLarge s.stop
    match s.exponent with
    | none => finish power
    | some (negative, start, stop) =>
      let (e, taken) := src.takeDigits maxExponent (stop - start) start 0
      if taken < stop then
        if digits != 0 && !negative then tooLarge (taken + 1) else .ok (signed .zero)
      else
        let sum := if negative then power - e else power + e
        finish (max (-0x8000_0000) (min 0x7FFF_FFFF sum))

/-! ## Strings -/

/-- The value of the four hexadecimal digits at `i`. -/
def readHex4 (src : Source) (i : Nat) : Except Fault Nat :=
  match src.at? i, src.at? (i + 1), src.at? (i + 2), src.at? (i + 3) with
  | some a, some b, some c, some d =>
    let digit (x : UInt8) := Text.Hex.value? (Char.ofNat x.toNat)
    match digit a, digit b, digit c, digit d with
    | some p, some q, some r, some s => .ok (4096 * p + 256 * q + 16 * r + s)
    | _, _, _, _ => .error (src.fault .badEscape (i + 4))
  | _, _, _, _ => .error (src.fault .eofInString src.size)

/-- The octets of a code point that is no surrogate. -/
def codePointOctets (n : Nat) : List UInt8 := (Char.ofNat n).toString.toUTF8.data.toList

/-- The character that an escape of one letter stands for. -/
def shortEscape? (b : UInt8) : Option UInt8 :=
  if b == 34 || b == 92 || b == 47 then some b
  else if b == 98 then some 8
  else if b == 102 then some 12
  else if b == 110 then some 10
  else if b == 114 then some 13
  else if b == 116 then some 9
  else none

/-- The code point of a `\u` escape whose digits start at `i`; a leading surrogate takes a second
escape. -/
def readUnicodeEscape (src : Source) (i : Nat) : Except Fault (Nat × Nat) := do
  let n ← src.readHex4 i
  let next := i + 4
  if 0xDC00 ≤ n && n ≤ 0xDFFF then .error (src.fault .loneSurrogate next)
  else if n < 0xD800 || 0xDBFF < n then return (n, next)
  else
    let expect (c : UInt8) (i : Nat) : Except Fault Unit :=
      match src.at? i with
      | none => .error (src.fault .eofInString i)
      | some b => if b == c then .ok () else .error (src.fault .escapeCutShort (i + 1))
    expect 92 next
    expect 117 (next + 1)
    let low ← src.readHex4 (next + 2)
    if low < 0xDC00 || 0xDFFF < low then .error (src.fault .loneSurrogate (next + 6))
    else return (0x10000 + (n - 0xD800) * 0x400 + (low - 0xDC00), next + 6)

/-- The strict reading of a string after its opening quote: its octets, last first, and the index
after its closing quote. -/
def readStringFrom (src : Source) : Nat → Nat → List UInt8 → Except Fault (List UInt8 × Nat)
  | 0, i, _ => .error (src.fault .eofInString i)
  | fuel + 1, i, acc =>
    match src.at? i with
    | none => .error (src.fault .eofInString i)
    | some b =>
      if b == 34 then .ok (acc, i + 1)
      else if b == 92 then
        match src.at? (i + 1) with
        | none => .error (src.fault .eofInString (i + 1))
        | some e =>
          if e == 117 then
            match src.readUnicodeEscape (i + 2) with
            | .error f => .error f
            | .ok (n, next) => src.readStringFrom fuel next ((codePointOctets n).reverse ++ acc)
          else match shortEscape? e with
            | some c => src.readStringFrom fuel (i + 2) (c :: acc)
            | none => .error (src.fault .badEscape (i + 2))
      else if b < 32 then .error (src.fault .controlCharacter (i + 1))
      else src.readStringFrom fuel (i + 1) (b :: acc)

/-- The text of a string whose opening quote is before `i`. The octets between escapes are those of
a well-formed text, so the whole is one too. -/
def readString (src : Source) (i : Nat) : Except Fault (String × Nat) := do
  let (octets, stop) ← src.readStringFrom (src.size + 1) i []
  let bytes : ByteArray := ⟨octets.reverse.toArray⟩
  return ((String.fromUTF8? bytes).getD "", stop)

/-- The lenient reading: the index after the closing quote. -/
def skipStringFrom (src : Source) : Nat → Nat → Except Fault Nat
  | 0, i => .error (src.fault .eofInString i)
  | fuel + 1, i =>
    match src.at? i with
    | none => .error (src.fault .eofInString i)
    | some b =>
      if b == 34 then .ok (i + 1)
      else if b == 92 then
        match src.at? (i + 1) with
        | none => .error (src.fault .eofInString (i + 1))
        | some e =>
          if e == 117 then
            match src.readHex4 (i + 2) with
            | .error f => .error f
            | .ok _ => src.skipStringFrom fuel (i + 6)
          else if (shortEscape? e).isSome then src.skipStringFrom fuel (i + 2)
          else .error (src.fault .badEscape (i + 2))
      else if b < 32 then .error (src.fault .controlCharacter i)
      else src.skipStringFrom fuel (i + 1)

def skipString (src : Source) (i : Nat) : Except Fault Nat :=
  src.skipStringFrom (src.size + 1) i

end DeviceAdmission.Json.Source
