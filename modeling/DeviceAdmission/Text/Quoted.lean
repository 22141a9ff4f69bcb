import DeviceAdmission.Text.Combining
import DeviceAdmission.Text.Hex

/-!
# Quoted diagnostic text

Texts and characters as they stand in diagnostics: in quotes, with `\` escapes for the quote, the
backslash, tab, line feed, carriage return and NUL, and `\u` escapes for what has no glyph. A
combining character is escaped where nothing precedes it.
-/
namespace DeviceAdmission.Text.Quoted

/-- The escape `\u` with the code point in braces. -/
def codePoint (c : Char) : String := "\\u\x7b" ++ Hex.ofNat c.toNat ++ "\x7d"

/-- What an escape depends on: the quote in use, and whether combining characters are escaped. -/
structure Context where
  quote : Option Char
  escapeCombining : Bool

def escapeChar (context : Context) (c : Char) : String :=
  if c == '\x00' then "\\0"
  else if c == '\t' then "\\t"
  else if c == '\r' then "\\r"
  else if c == '\n' then "\\n"
  else if c == '\\' then "\\\\"
  else if context.quote.all (· == c) && (c == '"' || c == '\'') then "\\" ++ c.toString
  else if context.escapeCombining && isCombining c then codePoint c
  else if isUnprintable c then codePoint c
  else c.toString

/-- A text in double quotes; only its first character may be an escaped combining one. -/
def text (s : String) : String :=
  let body := match s.toList with
    | [] => ""
    | first :: rest =>
      escapeChar ⟨some '"', true⟩ first ++
        String.join (rest.map (escapeChar ⟨some '"', false⟩))
  "\"" ++ body ++ "\""

/-- A character in single quotes. -/
def char (c : Char) : String := "'" ++ escapeChar ⟨some '\'', true⟩ c ++ "'"

/-- A path in double quotes, where each character is escaped on its own and both quotes are. -/
def path (s : String) : String :=
  "\"" ++ String.join (s.toList.map (escapeChar ⟨none, true⟩)) ++ "\""

end DeviceAdmission.Text.Quoted
