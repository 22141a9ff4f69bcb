import DeviceAdmission.Certificate.Address
import DeviceAdmission.Certificate.Name
import DeviceAdmission.Text.Blank

/-!
# General names

The names that stand among the alternative names of a certificate. The tag of a name tells its kind;
hosts, mail addresses, resources and network addresses can be shown as text.
-/
namespace DeviceAdmission.Certificate

open Der (Octets)

inductive GeneralName where
  | other
  | mail (text : String)
  | host (text : String)
  | exchange
  | directory
  | party
  | resource (text : String)
  /-- A network address in its octets. -/
  | address (octets : Octets)
  | registered
  deriving DecidableEq, Repr

namespace GeneralName

/-- The name that an element stands for. `none` if it is malformed. -/
def ofElement? (e : Der.Element) : Option GeneralName :=
  if e.header.tagClass != Der.contextClass then none
  else
    match e.header.tag with
    | 0 => if (Der.readPrimitive e.content).isOk then some .other else none
    | 1 => (Name.utf8? e.content).map .mail
    | 2 => (Name.utf8? e.content).map .host
    | 3 => some .exchange
    | 4 =>
      match Name.read e.content with
      | .ok (_, []) => some .directory
      | _ => none
    | 5 => some .party
    | 6 => (Name.utf8? e.content).map .resource
    | 7 => some (.address e.content)
    | 8 => some .registered
    | _ => none

def read (octets : Octets) : Option (GeneralName × Octets) :=
  match Der.readElement octets with
  | .error _ => none
  | .ok (e, rest) => (ofElement? e).map (·, rest)

/-- The text of a name of a kind that is shown. -/
def text? : GeneralName → Option String
  | .mail text | .host text | .resource text => some text
  | .address octets => Address.text? octets
  | .other | .exchange | .directory | .party | .registered => none

/-- The texts of names in order, without surrounding blanks and without empty ones. -/
def texts (names : List GeneralName) : List String :=
  ((names.filterMap text?).map Text.trimBlank).filter (!·.isEmpty)

end GeneralName

end DeviceAdmission.Certificate
