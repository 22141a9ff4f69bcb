import DeviceAdmission.Yaml.Fault

/-!
# Tokens of YAML

Block structure is made explicit: a block opens and closes with tokens of its own, and so do the
keys of mappings.
-/
namespace DeviceAdmission.Yaml

inductive Style where
  | plain | singleQuoted | doubleQuoted | literal | folded
  deriving DecidableEq, Repr

/-- The octets of a tag's name. -/
abbrev Uri := List UInt8

inductive TokenKind where
  | textEnd
  | versionDirective (major minor : Nat)
  | handleDirective (handle : String) (expansion : Uri)
  | documentStart
  | documentEnd
  | blockSequenceStart
  | blockMappingStart
  | blockEnd
  | flowSequenceStart
  | flowSequenceEnd
  | flowMappingStart
  | flowMappingEnd
  | blockEntry
  | flowEntry
  | key
  | value
  | aliasName (name : String)
  | anchor (name : String)
  | tag (handle : String) (suffix : Uri)
  | scalar (text : String) (style : Style)
  deriving DecidableEq, Repr

structure Token where
  kind : TokenKind
  start : Mark
  stop : Mark
  deriving DecidableEq, Repr

end DeviceAdmission.Yaml
