import DeviceAdmission.Json.Printer
import DeviceAdmission.Log.Level
import DeviceAdmission.Text.Quoted

/-!
# Log records

What is noted about an event: how grave it is, which part of the program notes it, a message and
further fields. A record is written as a line of text or as a line with a JSON object.
-/
namespace DeviceAdmission.Log

structure Record where
  level : Level
  target : String
  message : String
  /-- The further fields, with their values as texts. -/
  fields : List (String × String) := []
  deriving DecidableEq, Repr

namespace Record

/-- The fields with the message, which comes first. -/
def members (r : Record) : List (String × String) := ("message", r.message) :: r.fields

def fieldNames (r : Record) : List String := r.members.map (·.1)

/-- What a terminal would take for a command: five control characters of ASCII, and those after
it. -/
def isTerminalControl (c : Char) : Bool :=
  c == '\x07' || c == '\x08' || c == '\x0c' || c == '\x1b' || c == '\x7f' ||
    (0x80 ≤ c.toNat && c.toNat ≤ 0x9f)

/-- A message without commands to a terminal. -/
def harmless (s : String) : String :=
  String.join (s.toList.map fun c =>
    if isTerminalControl c then
      if c.toNat < 0x80 then "\\x" ++ Text.Hex.encode [c.toUInt8] else Text.Quoted.codePoint c
    else c.toString)

/-- The record as a line of text: the level, the message, and the fields in their order. -/
def line (r : Record) : String :=
  " ".intercalate <|
    r.level.heading :: harmless r.message :: r.fields.map fun (key, value) => key ++ "=" ++ value

/-- The record as a line with the level and an object of the fields, sorted by their names. -/
def jsonLine (r : Record) : String :=
  let sorted := r.members.mergeSort fun a b => a.1 ≤ b.1
  r.level.heading ++ " " ++ (Json.object (sorted.map fun (key, value) => (key, .text value))).render

end Record

end DeviceAdmission.Log
