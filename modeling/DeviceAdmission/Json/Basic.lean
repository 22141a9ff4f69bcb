import DeviceAdmission.Decimal.Layout

/-!
# JSON values

A value tree in which whole numbers are exact and all other numbers are binary floating point.
Objects list their members; the operations on members keep them ascending by key, one a key.
-/
namespace DeviceAdmission

/-- A number: whole, or with a fraction or an exponent. -/
inductive Json.Number where
  | whole (n : Int)
  | fraction (x : Decimal.Binary64)
  deriving DecidableEq, Repr

inductive Json where
  | null
  | bool (b : Bool)
  | number (n : Json.Number)
  | text (s : String)
  | array (items : List Json)
  | object (members : List (String × Json))
  deriving Repr, BEq, Inhabited

namespace Json

/-- Fractions are positional for decimal exponents from -5 to 15. -/
def layout : Decimal.Layout := ⟨some (-5), some 15⟩

def Number.render : Number → String
  | .whole n => toString n
  | .fraction x => layout.text x

def ofNat (n : Nat) : Json := .number (.whole n)

def ofInt (n : Int) : Json := .number (.whole n)

/-- The first member of a key. -/
def lookup (members : List (String × Json)) (key : String) : Option Json :=
  (members.find? (·.1 == key)).map (·.2)

/-- Puts a member at its place in ascending order; an equal key is replaced. -/
def insert (key : String) (value : Json) : List (String × Json) → List (String × Json)
  | [] => [(key, value)]
  | (k, v) :: rest =>
    if key == k then (key, value) :: rest
    else if key < k then (key, value) :: (k, v) :: rest
    else (k, v) :: insert key value rest

/-- Members in ascending order of which the last of equal keys counts. -/
def ofMembers (members : List (String × Json)) : List (String × Json) :=
  members.foldl (fun sorted (k, v) => insert k v sorted) []

/-- The member of an object; other values have none. -/
def field? (key : String) : Json → Option Json
  | .object members => lookup members key
  | _ => none

end Json

end DeviceAdmission
