/-!
# Files

Files by their paths, as a program meets them: what stands at a path, or why nothing can be read
there. Reading gives the octets of a file or its text.
-/
namespace DeviceAdmission.Files

inductive ReadError where
  | notFound
  | permissionDenied
  | isDirectory
  | notDirectory
  | nameTooLong
  | notText
  deriving DecidableEq, Repr

def ReadError.message : ReadError → String
  | .notFound => "No such file or directory (os error 2)"
  | .permissionDenied => "Permission denied (os error 13)"
  | .isDirectory => "Is a directory (os error 21)"
  | .notDirectory => "Not a directory (os error 20)"
  | .nameTooLong => "File name too long (os error 36)"
  | .notText => "stream did not contain valid UTF-8"

/-- What stands at a path. A file may refuse to be read. -/
inductive Entry where
  | file (content : Except ReadError (List UInt8))
  | directory

/-- What a program finds at each path, or why it finds nothing. -/
abbrev System := String → Except ReadError Entry

namespace System

def exists? (s : System) (path : String) : Bool := (s path).isOk

/-- The octets of a file. -/
def read (s : System) (path : String) : Except ReadError (List UInt8) :=
  match s path with
  | .ok (.file content) => content
  | .ok .directory => .error .isDirectory
  | .error e => .error e

/-- The text of a file. -/
def readText (s : System) (path : String) : Except ReadError String :=
  match s.read path with
  | .error e => .error e
  | .ok octets =>
    match String.fromUTF8? ⟨octets.toArray⟩ with
    | some text => .ok text
    | none => .error .notText

end System

end DeviceAdmission.Files
