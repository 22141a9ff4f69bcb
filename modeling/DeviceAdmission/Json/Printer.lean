import DeviceAdmission.Json.Basic
import DeviceAdmission.Text.Quoted

/-!
# Printing JSON

The compact form without blanks, the form indented by two, and the diagnostic form that names each
constructor. Members are printed in the order they stand in.
-/
namespace DeviceAdmission.Json

/-- A character inside a string: quotes, backslashes and characters below U+0020 are escaped. -/
def escapeChar (c : Char) : String :=
  if c == '"' then "\\\""
  else if c == '\\' then "\\\\"
  else if c == '\x08' then "\\b"
  else if c == '\x0c' then "\\f"
  else if c == '\n' then "\\n"
  else if c == '\r' then "\\r"
  else if c == '\t' then "\\t"
  else if c.toNat < 32 then
    "\\u00" ++ String.ofList [Text.Hex.digit (c.toNat / 16), Text.Hex.digit (c.toNat % 16)]
  else c.toString

def quote (s : String) : String := "\"" ++ String.join (s.toList.map escapeChar) ++ "\""

mutual

/-- The compact text of a value. -/
def render : Json → String
  | .null => "null"
  | .bool b => if b then "true" else "false"
  | .number n => n.render
  | .text s => quote s
  | .array items => "[" ++ renderItems items ++ "]"
  | .object members => "\x7b" ++ renderMembers members ++ "\x7d"

def renderItems : List Json → String
  | [] => ""
  | [item] => render item
  | item :: rest => render item ++ "," ++ renderItems rest

def renderMembers : List (String × Json) → String
  | [] => ""
  | [(key, value)] => quote key ++ ":" ++ render value
  | (key, value) :: rest => quote key ++ ":" ++ render value ++ "," ++ renderMembers rest

end

/-- A line break and two blanks for each level. -/
def breakAt (level : Nat) : String := "\n" ++ String.ofList (List.replicate (2 * level) ' ')

mutual

/-- The text of a value at a nesting level, one item or member a line. -/
def renderAt (level : Nat) : Json → String
  | .array [] => "[]"
  | .object [] => "\x7b\x7d"
  | .array items => "[" ++ renderItemsAt (level + 1) items ++ breakAt level ++ "]"
  | .object members => "\x7b" ++ renderMembersAt (level + 1) members ++ breakAt level ++ "\x7d"
  | .null => "null"
  | .bool b => if b then "true" else "false"
  | .number n => n.render
  | .text s => quote s

def renderItemsAt (level : Nat) : List Json → String
  | [] => ""
  | [item] => breakAt level ++ renderAt level item
  | item :: rest => breakAt level ++ renderAt level item ++ "," ++ renderItemsAt level rest

def renderMembersAt (level : Nat) : List (String × Json) → String
  | [] => ""
  | [(key, value)] => breakAt level ++ quote key ++ ": " ++ renderAt level value
  | (key, value) :: rest =>
    breakAt level ++ quote key ++ ": " ++ renderAt level value ++ "," ++
      renderMembersAt level rest

end

/-- The indented text of a value. -/
def renderIndented (value : Json) : String := renderAt 0 value

mutual

/-- The diagnostic text of a value. -/
def diagnostic : Json → String
  | .null => "Null"
  | .bool b => "Bool(" ++ (if b then "true" else "false") ++ ")"
  | .number n => "Number(" ++ n.render ++ ")"
  | .text s => "String(" ++ Text.Quoted.text s ++ ")"
  | .array items => "Array [" ++ diagnosticItems items ++ "]"
  | .object members => "Object \x7b" ++ diagnosticEntries members ++ "\x7d"

def diagnosticItems : List Json → String
  | [] => ""
  | [item] => diagnostic item
  | item :: rest => diagnostic item ++ ", " ++ diagnosticItems rest

def diagnosticEntries : List (String × Json) → String
  | [] => ""
  | [(key, value)] => Text.Quoted.text key ++ ": " ++ diagnostic value
  | (key, value) :: rest =>
    Text.Quoted.text key ++ ": " ++ diagnostic value ++ ", " ++ diagnosticEntries rest

end

/-- The diagnostic text of the members of an object. -/
def diagnosticMembers (members : List (String × Json)) : String :=
  "\x7b" ++ diagnosticEntries members ++ "\x7d"

end DeviceAdmission.Json
