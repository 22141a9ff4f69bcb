import DeviceAdmission.Files.Basic

/-!
# Files of a directory

A directory as the files in it, by their paths; the directories on the way to a file exist with it.
Paths from the root are kept apart from those in the directory, and nothing is known of what lies
above the directory.
-/
namespace DeviceAdmission.Files

structure File where
  path : List String
  octets : List UInt8
  deriving DecidableEq, Repr

abbrev Directory := List File

/-- The part that stands for the root. -/
def root : String := "/"

/-- The parts of a path, between its slashes, after the root if it starts there. -/
def split (path : String) : List String :=
  match path.splitOn "/" with
  | "" :: rest => root :: rest
  | parts => parts

/-- The longest name, in octets. -/
def maxName : Nat := 255

/-- The longest path, in octets. -/
def maxPath : Nat := 4095

/-- Whether a part of a path leads to no other place than the one it is met at, or above it. -/
def isDots (part : String) : Bool := part == "" || part == "." || part == ".."

namespace Directory

def entry? (d : Directory) (place : List String) : Option Entry :=
  match d.find? (·.path == place) with
  | some f => some (.file (.ok f.octets))
  | none =>
    if place.isEmpty || place == [root] || d.any (fun f => place.isPrefixOf f.path) then
      some .directory
    else none

/-- Follows the parts of a path from a place. -/
def follow (d : Directory) : List String → List String → Except ReadError Entry
  | place, [] =>
    match d.entry? place with
    | some e => .ok e
    | none => .error .notFound
  | place, part :: rest =>
    match d.entry? place with
    | none => .error .notFound
    | some (.file _) => .error .notDirectory
    | some .directory =>
      if part == "" || part == "." then d.follow place rest
      else if part == ".." then
        if place.isEmpty then if rest.all isDots then .ok .directory else .error .notFound
        else if place == [root] then d.follow place rest
        else d.follow place.dropLast rest
      else if maxName < part.utf8ByteSize then .error .nameTooLong
      else d.follow (place ++ [part]) rest

/-- The directory as a program in it meets it. -/
def system (d : Directory) : System := fun path =>
  if path == "" then .error .notFound
  else if maxPath < path.utf8ByteSize then .error .nameTooLong
  else d.follow [] (split path)

end Directory

end DeviceAdmission.Files
