import DeviceAdmission.Call.Context

/-!
# Calls over gRPC

A request with its headers as octets. A value is readable if it consists of visible ASCII
characters, blanks and tabs. Keys that end in `-bin` hold binary values and are never read as text.
-/
namespace DeviceAdmission.Grpc

open Call (Context Instant)

structure Request where
  /-- Lower-case keys with their values in the order of arrival. -/
  headers : List (String × List UInt8)
  peer : Option Certificate.Chain
  message : Message

/-- The header that brings the timeout of a call. -/
def timeoutKey : String := "grpc-timeout"

def isReadable (octets : List UInt8) : Bool := octets.all fun b => b == 9 || (32 ≤ b && b < 127)

/-- A readable value as text. -/
def text? (octets : List UInt8) : Option String :=
  if isReadable octets then some (String.ofList (octets.map fun b => Char.ofNat b.toNat)) else none

/-- Headers as they are stored: the keys in lower case. -/
def headersOf (entries : List (String × List UInt8)) : List (String × List UInt8) :=
  entries.map fun (key, value) => (key.toLower, value)

/-- The values of a key in any letter case. -/
def Request.values (r : Request) (key : String) : List (List UInt8) :=
  if key.endsWith "-bin" then []
  else (r.headers.filter fun h => h.1 == key.toLower).map (·.2)

/-- The first value of a key, if it is readable. -/
def Request.firstText? (r : Request) (key : String) : Option String :=
  (r.values key).head?.bind text?

def Request.call (r : Request) (method : String) : Call where
  method := method
  metadata key := (r.values key).map fun v => (text? v).getD ""
  peer := r.peer
  message := r.message

/-- The context of a request: its id, and a deadline if it brings a timeout. -/
def Request.context (r : Request) (fresh : String) (now : Instant) : Context :=
  let cx := Context.ofRequestId (Context.chooseId fresh (r.firstText? Call.requestIdKey))
  match (r.firstText? timeoutKey).bind Call.Timeout.parse? with
  | some timeout => cx.withTimeout now timeout
  | none => cx

end DeviceAdmission.Grpc
