import DeviceAdmission.Text.Base64
import DeviceAdmission.Text.Blank

/-!
# PEM files

A PEM file holds blocks of octets in base 64. A block stands between a line that begins it, with its
label, and a line that ends it; other lines between blocks do not count. What follows a block that
cannot be read is not looked at.
-/
namespace DeviceAdmission.Pem

structure Block where
  label : String
  octets : List UInt8
  deriving DecidableEq, Repr

/-- Why a block cannot be read. -/
inductive Fault where
  /-- A line is not UTF-8. -/
  | notText
  /-- The line that begins the block has no end mark. -/
  | header
  /-- The file ends within the block. -/
  | incomplete
  | base64
  deriving DecidableEq, Repr

def Fault.message : Fault → String
  | .notText =>
    "IO error: stream did not contain valid UTF-8: stream did not contain valid UTF-8"
  | .header => "invalid header"
  | .incomplete => "incomplete PEM"
  | .base64 => "base64 decode error"

/-- The lines of a file, without their line feeds. -/
def lines (octets : List UInt8) : List (List UInt8) :=
  match octets.reverse with
  | [] => []
  | last :: before => (if last == 10 then before.reverse else octets).splitOn 10

def beginMark : String := "-----BEGIN "

def endMark : String := "-----END "

/-- The label in a line that begins a block: from the mark to the first dash. A second mark has to
follow it. -/
def label? (line : String) : Option String :=
  match line.splitOn "-----" with
  | _ :: title :: _ :: _ =>
    some (String.ofList ((title.toList.drop "BEGIN ".length).takeWhile (· != '-')))
  | _ => none

/-- A block from its label and the lines of its body. -/
def block (label : String) (body : List String) : Except Fault Block :=
  match Text.Base64.decode? (String.join body).toList with
  | some octets => .ok ⟨label, octets⟩
  | none => .error .base64

/-- Reads lines, between blocks or within a block with a label and the lines of its body so far, the
last one first. -/
def read : Option (String × List String) → List (List UInt8) → List (Except Fault Block)
  | none, [] => []
  | some _, [] => [.error .incomplete]
  | reading, line :: rest =>
    match String.fromUTF8? ⟨line.toArray⟩, reading with
    | none, _ => [.error .notText]
    | some text, none =>
      if text.startsWith beginMark then
        match label? text with
        | some label => read (some (label, [])) rest
        | none => [.error .header]
      else read none rest
    | some text, some (label, body) =>
      if text.startsWith endMark then
        match block label body.reverse with
        | .ok b => .ok b :: read none rest
        | .error fault => [.error fault]
      else read (some (label, Text.trimBlankEnd text :: body)) rest

/-- The blocks of a file in their order, up to the first that cannot be read. -/
def blocks (octets : List UInt8) : List (Except Fault Block) := read none (lines octets)

end DeviceAdmission.Pem
