import DeviceAdmission.Decimal.Layout

/-!
# Reading and naming fractions

The value that the digits of a decimal stand for, rounded once, and the values beyond it that have
names instead of digits.
-/
namespace DeviceAdmission.Decimal

/-- A fraction, or one of the values that no digits write. -/
inductive Fraction where
  | finite (x : Binary64)
  | infinite (negative : Bool)
  | notANumber
  deriving DecidableEq, Repr

/-- Splits digits from what follows them. -/
def splitDigits (cs : List Char) : List Char × List Char :=
  (cs.takeWhile Char.isDigit, cs.dropWhile Char.isDigit)

/-- The exponent of a decimal, if nothing else follows its digits. -/
def exponent? : List Char → Option Int
  | [] => some 0
  | e :: rest =>
    if e != 'e' && e != 'E' then none
    else
      let (negative, digits) := match rest with
        | '-' :: digits => (true, digits)
        | '+' :: digits => (false, digits)
        | digits => (false, digits)
      if digits.isEmpty || !digits.all Char.isDigit then none
      else
        let n := Nat.ofDigitChars 10 digits 0
        some (if negative then -(n : Int) else n)

/-- Decimals of this order of magnitude or above are out of range. -/
def maxOrder : Int := 310

/-- Decimals of this order of magnitude or below are zero. -/
def minOrder : Int := -400

/-- The value of a decimal: digits with an optional point among them and an optional exponent. -/
def decimal? (cs : List Char) : Option Binary64 := do
  let (whole, rest) := splitDigits cs
  let (places, rest) := match rest with
    | '.' :: rest => splitDigits rest
    | rest => ([], rest)
  if whole.isEmpty && places.isEmpty then none
  let power := (← exponent? rest) - places.length
  let digits := Nat.ofDigitChars 10 (whole ++ places) 0
  let order := power + (toString digits).length
  if digits == 0 || order ≤ minOrder then some Binary64.zero
  else if maxOrder ≤ order then none
  else Binary64.ofDecimal? digits power

/-- Fractions are laid out positionally in messages. -/
def fractionLayout : Layout := ⟨none, none⟩

def Fraction.text : Fraction → String
  | .finite x => fractionLayout.text x
  | .infinite negative => if negative then "-inf" else "inf"
  | .notANumber => "NaN"

end DeviceAdmission.Decimal
