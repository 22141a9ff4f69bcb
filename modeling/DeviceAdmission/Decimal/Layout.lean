import DeviceAdmission.Decimal.Shortest

/-!
# Layout of decimal numbers

How shortest digits are laid out: positionally with a point, or in scientific form with an exponent.
A record says where one form ends and the other begins.
-/
namespace DeviceAdmission.Decimal

/-- The decimal exponents written positionally; outside of them the scientific form is used. -/
structure Layout where
  least : Option Int
  greatest : Option Int
  deriving DecidableEq, Repr

namespace Layout

/-- Zero digits, as many as asked for. -/
def zeros (n : Nat) : String := String.ofList (List.replicate n '0')

/-- Digits with a point; a whole number ends in `.0`. -/
def positional (s : Scientific) : String :=
  let digits := toString s.digits
  let width : Int := digits.length
  if 0 ≤ s.power then digits ++ zeros s.power.toNat ++ ".0"
  else if 0 < width + s.power then
    let whole := (width + s.power).toNat
    String.ofList (digits.toList.take whole) ++ "." ++ String.ofList (digits.toList.drop whole)
  else "0." ++ zeros (-(width + s.power)).toNat ++ digits

/-- One digit, a point before further digits, and a signed exponent. -/
def scientific (s : Scientific) : String :=
  let digits := toString s.digits
  let exponent : Int := s.power + digits.length - 1
  let mantissa := match digits.toList with
    | first :: second :: rest => String.ofList (first :: '.' :: second :: rest)
    | short => String.ofList short
  mantissa ++ "e" ++ (if exponent < 0 then "" else "+") ++ toString exponent

/-- The text of a value; a negative zero keeps its sign. -/
def text (format : Layout) (x : Binary64) : String :=
  let s := x.shortest
  let exponent : Int := s.power + (toString s.digits).length - 1
  let body :=
    if format.least.all (· ≤ exponent) && format.greatest.all (exponent ≤ ·) then positional s
    else scientific s
  if x.negative then "-" ++ body else body

end Layout

end DeviceAdmission.Decimal
