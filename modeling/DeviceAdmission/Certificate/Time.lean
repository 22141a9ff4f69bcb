import DeviceAdmission.Der.Basic

/-!
# Times in certificates

A time has a two-digit year and a zone, or a four-digit year and no zone but `Z`. Only whether a
text is a time matters here.
-/
namespace DeviceAdmission.Certificate.Time

open Der (Octets)

/-- The value of two decimal digits. -/
def twoDigits? (a b : UInt8) : Option Nat :=
  let digit (x : UInt8) := 48 ≤ x && x ≤ 57
  if digit a && digit b then some ((a.toNat - 48) * 10 + (b.toNat - 48)) else none

/-- Two digits at the front and what follows them. -/
def takeTwo? : Octets → Option (Nat × Octets)
  | a :: b :: rest => (twoDigits? a b).map (·, rest)
  | _ => none

def isLeap (year : Nat) : Bool := (year % 4 == 0 && year % 100 != 0) || year % 400 == 0

/-- The number of days in a month; zero if there is no such month. -/
def daysIn (year month : Nat) : Nat :=
  if month == 2 then if isLeap year then 29 else 28
  else if [4, 6, 9, 11].contains month then 30
  else if 1 ≤ month && month ≤ 12 then 31
  else 0

def isDate (year month day : Nat) : Bool := 1 ≤ day && day ≤ daysIn year month

/-- Month, day, hour, minute and an optional second, checked; what follows them is the zone. -/
def rest? (year : Nat) (octets : Octets) : Option Octets := do
  let (month, octets) ← takeTwo? octets
  let (day, octets) ← takeTwo? octets
  let (hour, octets) ← takeTwo? octets
  let (minute, octets) ← takeTwo? octets
  let (second, octets) := (takeTwo? octets).getD (0, octets)
  if isDate year month day && hour ≤ 23 && minute ≤ 59 && second ≤ 59 then some octets else none

/-- `Z`, or a sign with hours and minutes. -/
def isZone : Octets → Bool
  | [90] => true
  | sign :: h1 :: h2 :: m1 :: m2 :: [] =>
    (sign == 43 || sign == 45) && (twoDigits? h1 h2).any (· ≤ 25) && (twoDigits? m1 m2).any (· ≤ 59)
  | _ => false

/-- A time with a two-digit year; the years below fifty are of the twenty-first century. -/
def isShort (octets : Octets) : Bool :=
  ((takeTwo? octets).bind fun (year, octets) =>
    rest? (if year < 50 then 2000 + year else 1900 + year) octets).any isZone

/-- The end of a time with a four-digit year: at most three digits after a point, and `Z`. -/
def isLongEnd : Octets → Bool
  | [90] => true
  | 46 :: rest =>
    let digits := rest.takeWhile fun b => 48 ≤ b && b ≤ 57
    1 ≤ digits.length && digits.length ≤ 3 && rest.drop digits.length == [90]
  | _ => false

/-- A time with a four-digit year. -/
def isLong (octets : Octets) : Bool :=
  (do
    let (century, octets) ← takeTwo? octets
    let (year, octets) ← takeTwo? octets
    rest? (100 * century + year) octets).any isLongEnd

/-- Skips a time. -/
def skip? (octets : Octets) : Option Octets :=
  match Der.readElement octets with
  | .error _ => none
  | .ok (e, rest) =>
    if (e.header.tag == 23 && isShort e.content) || (e.header.tag == 24 && isLong e.content) then
      some rest
    else none

end DeviceAdmission.Certificate.Time
