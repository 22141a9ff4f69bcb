import DeviceAdmission.Decimal.Binary64

/-!
# Shortest decimal digits

The fewest decimal digits that round back to a binary value, and of those the nearest to it. The
search tries one digit, then two, and so on: on each decimal grid only the two neighbours of the
value can lie in the interval of numbers that round to it.
-/
namespace DeviceAdmission.Decimal

/-- The number `digits * 10 ^ power`. -/
structure Scientific where
  digits : Nat
  power : Int
  deriving DecidableEq, Repr

namespace Binary64

/-- Compares `a / b` with `c * 10 ^ power`. -/
def compareDecimal (a b c : Nat) (power : Int) : Ordering :=
  if 0 ≤ power then compare a (b * c * Nat.pow 10 power.toNat)
  else compare (a * Nat.pow 10 (-power).toNat) (b * c)

/-- Whether the decimal rounds back to a positive value: it lies within half a step of it, the ends
included when the significand is even. A step below a power of two is half as long. -/
def isReadBack (x : Binary64) (c : Nat) (power : Int) : Bool :=
  let narrow := x.significand == implicitBit && minExponent < x.exponent
  let (lowA, lowB) := scale (4 * x.significand - (if narrow then 1 else 2)) 4 x.exponent
  let (highA, highB) := scale (4 * x.significand + 2) 4 x.exponent
  let even := x.significand % 2 == 0
  let low := compareDecimal lowA lowB c power
  let high := compareDecimal highA highB c power
  (low == .lt || (even && low == .eq)) && (high == .gt || (even && high == .eq))

/-- The greatest `p` with `10 ^ p ≤ a / b`, from an estimate that is at most three too small. -/
def floorLog10 (a b : Nat) : Int :=
  let start := Int.fdiv (floorLog2 a b * 30103) 100000 - 1
  let up (p : Int) : Int := if compareDecimal a b 1 (p + 1) != .lt then p + 1 else p
  up (up (up start))

/-- The two neighbours of a value on the grid of multiples of `10 ^ power`: the one below and
the one above. -/
def neighbours (a b : Nat) (power : Int) : Nat × Nat :=
  let below :=
    if 0 ≤ power then a / (b * Nat.pow 10 power.toNat) else a * Nat.pow 10 (-power).toNat / b
  (below, below + 1)

/-- Of two neighbours that both read back, the nearer one; a tie goes to the even one. -/
def nearer (a b : Nat) (power : Int) (low : Nat) : Nat :=
  match compareDecimal (2 * a) b (2 * low + 1) power with
  | .lt => low
  | .gt => low + 1
  | .eq => if low % 2 == 0 then low else low + 1

/-- Tries ever finer grids, at most `fuel` of them. -/
def searchDigits (x : Binary64) (a b : Nat) : Nat → Int → Scientific
  | 0, power => ⟨(neighbours a b power).1, power⟩
  | fuel + 1, power =>
    let (low, high) := neighbours a b power
    match isReadBack x low power && low != 0, isReadBack x high power with
    | true, true => ⟨nearer a b power low, power⟩
    | true, false => ⟨low, power⟩
    | false, true => ⟨high, power⟩
    | false, false => searchDigits x a b fuel (power - 1)

/-- The shortest decimal of the absolute value; zero is the digit zero. -/
def shortest (x : Binary64) : Scientific :=
  if x.isZero then ⟨0, 0⟩
  else
    let (a, b) := x.ratio
    let found := searchDigits x a b 17 (floorLog10 a b)
    if found.digits % 10 == 0 then ⟨found.digits / 10, found.power + 1⟩ else found

end Binary64

end DeviceAdmission.Decimal
