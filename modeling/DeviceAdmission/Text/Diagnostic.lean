import DeviceAdmission.Text.Quoted

/-!
# Diagnostic text of records

Records, options, lists and sets as diagnostics and log fields show them. The parts are given as
texts that are already in diagnostic form.
-/
namespace DeviceAdmission.Text.Diagnostic

/-- Fields in braces after a name; a name alone if there are none. -/
def record (name : String) (fields : List (String × String)) : String :=
  if fields.isEmpty then name
  else
    let body := ", ".intercalate (fields.map fun (key, value) => key ++ ": " ++ value)
    name ++ " \x7b " ++ body ++ " \x7d"

/-- One part in parentheses after a name. -/
def wrapped (name part : String) : String := name ++ "(" ++ part ++ ")"

def option : Option String → String
  | none => "None"
  | some part => wrapped "Some" part

def list (parts : List String) : String := "[" ++ ", ".intercalate parts ++ "]"

def set (parts : List String) : String := "\x7b" ++ ", ".intercalate parts ++ "\x7d"

def bool (b : Bool) : String := if b then "true" else "false"

end DeviceAdmission.Text.Diagnostic
