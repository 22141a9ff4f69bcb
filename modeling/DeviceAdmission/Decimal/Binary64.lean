/-!
# Binary floating point of 64 bits

Finite values as a sign, a significand below `2 ^ 53` and a power of two. Every operation computes
its exact ratio of natural numbers and rounds once, to the nearest value and to the even one of two.
-/
namespace DeviceAdmission.Decimal

/-- A finite value `± significand * 2 ^ exponent`. -/
structure Binary64 where
  negative : Bool
  significand : Nat
  exponent : Int
  deriving DecidableEq, Repr

namespace Binary64

/-- The least power of two that a significand is scaled by. -/
def minExponent : Int := -1074

/-- The significand of a power of two, the least of a normal value. -/
def implicitBit : Nat := 0x10_0000_0000_0000

def zero : Binary64 := ⟨false, 0, minExponent⟩

def isZero (x : Binary64) : Bool := x.significand == 0

def negate (x : Binary64) : Binary64 := { x with negative := !x.negative }

/-- The quotient rounded to the nearest integer, a half to the even one. -/
def divideHalfEven (num den : Nat) : Nat :=
  let q := num / den
  let r := num % den
  if 2 * r < den then q
  else if den < 2 * r then q + 1
  else if q % 2 == 0 then q else q + 1

/-- The ratio `num / den * 2 ^ shift` as a numerator and a denominator. -/
def scale (num den : Nat) (shift : Int) : Nat × Nat :=
  if 0 ≤ shift then (num * Nat.pow 2 shift.toNat, den) else (num, den * Nat.pow 2 (-shift).toNat)

/-- The greatest `k` with `2 ^ k ≤ num / den`, for positive arguments. -/
def floorLog2 (num den : Nat) : Int :=
  let k : Int := (num.log2 : Int) - (den.log2 : Int)
  let (n, d) := scale num den (-k)
  if d ≤ n then k else k - 1

/-- The nearest nonnegative value to `num / den`; `none` beyond the greatest finite one. -/
def ofRatio? (num den : Nat) : Option Binary64 :=
  if num == 0 then some zero
  else
    let e := max (floorLog2 num den - 52) minExponent
    let (n, d) := scale num den (-e)
    let m := divideHalfEven n d
    let (m, e) := if m == 2 * implicitBit then (implicitBit, e + 1) else (m, e)
    if 971 < e then none else some ⟨false, m, e⟩

/-- The absolute value as a ratio. -/
def ratio (x : Binary64) : Nat × Nat := scale x.significand 1 x.exponent

/-- The rounded product of absolute values. -/
def mul? (x y : Binary64) : Option Binary64 :=
  let (a, b) := x.ratio
  let (c, d) := y.ratio
  ofRatio? (a * c) (b * d)

/-- The rounded quotient of absolute values, for a divisor other than zero. -/
def div? (x y : Binary64) : Option Binary64 :=
  let (a, b) := x.ratio
  let (c, d) := y.ratio
  ofRatio? (a * d) (b * c)

/-- The nearest value to `digits * 10 ^ power`, rounded once. -/
def ofDecimal? (digits : Nat) (power : Int) : Option Binary64 :=
  if 0 ≤ power then ofRatio? (digits * Nat.pow 10 power.toNat) 1
  else ofRatio? digits (Nat.pow 10 (-power).toNat)

end Binary64

end DeviceAdmission.Decimal
