import DeviceAdmission.Text.Blank
import DeviceAdmission.Text.Quoted

/-!
# The format policy for device ids

A policy limits the length of an id and the characters in it. The built-in limit and the built-in
forbidden characters always hold; an operator can only tighten them. Of several violations the first
counts: emptiness, then length, then the leftmost forbidden character.
-/
namespace DeviceAdmission.DeviceId

/-- The greatest length, in characters. -/
def maxLength : Nat := 256

/-- Forbidden besides control and blank characters. -/
def forbiddenSymbols : List Char :=
  ['±', '!', '@', '£', '$', '%', '&', '*', '+', '§', '¡', '€', '#', '¢', '¶', '•', 'ª', 'º', '«',
    '\\', '/', '<', '>', '?', ':', ';', '|', '=', ',', '"']

inductive Violation where
  | empty
  | tooLong (length limit : Nat)
  | forbidden (c : Char)
  deriving DecidableEq, Repr

namespace Violation

/-- The name of the violated rule. -/
def rule : Violation → String
  | .empty => "empty"
  | .tooLong _ _ => "too_long"
  | .forbidden _ => "forbidden_char"

def message : Violation → String
  | .empty => "device id is empty"
  | .tooLong length limit =>
    "device id is " ++ toString length ++ " characters long, the limit is " ++ toString limit
  | .forbidden c => "device id contains forbidden character " ++ Text.Quoted.char c

end Violation

structure Policy where
  limit : Nat
  /-- Characters forbidden on top of the built-in ones. -/
  extra : List Char
  deriving DecidableEq, Repr

namespace Policy

/-- The fleet-wide policy. -/
def default : Policy := ⟨maxLength, []⟩

/-- A policy with a limit, which is brought into the range from 1 to `maxLength`. -/
def ofLimit (limit : Nat) : Policy := ⟨max 1 (min limit maxLength), []⟩

def forbid (policy : Policy) (cs : List Char) : Policy :=
  { policy with extra := policy.extra ++ cs }

def isForbidden (policy : Policy) (c : Char) : Bool :=
  Text.isControl c || Text.isBlank c || forbiddenSymbols.contains c || policy.extra.contains c

def check (policy : Policy) (id : String) : Except Violation Unit :=
  let cs := id.toList
  if cs.isEmpty then .error .empty
  else if policy.limit < cs.length then .error (.tooLong cs.length policy.limit)
  else match cs.find? policy.isForbidden with
    | some c => .error (.forbidden c)
    | none => .ok ()

def accepts (policy : Policy) (id : String) : Bool := (policy.check id).isOk

end Policy

end DeviceAdmission.DeviceId
