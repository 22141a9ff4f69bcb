import DeviceAdmission.Yaml.Meaning

/-!
# Writing YAML

Block mappings of scalars. A text is written plain if it can be; between single quotes if plain it
would mean something else or break the grammar; as a literal block if it has line feeds; and between
double quotes if it has characters that must be escaped or blanks that other styles would lose.
-/
namespace DeviceAdmission.Yaml

/-- Characters that are written as they are outside of escapes; line feeds are among them. -/
def isPrintable (c : Char) : Bool :=
  let n := c.toNat
  n == 10 || (32 ≤ n && n ≤ 126) || (0xA0 ≤ n && n ≤ 0xFFFD && n != 0xFEFF) || 0x10000 ≤ n

/-! ## Which styles a text allows -/

/-- Characters that begin no plain scalar. -/
def beginsIndicator (c : Char) : Bool := "#,[]\x7b\x7d&*!|>'\"%@`".toList.contains c

/-- Whether a plain scalar cannot begin like this. -/
def beginsReserved (s : List Char) : Bool :=
  match s with
  | [] => false
  | c :: rest =>
    beginsIndicator c || (c == '?' || c == ':' || c == '-') && endsWord rest ||
      ['-', '-', '-'].isPrefixOf s || ['.', '.', '.'].isPrefixOf s

/-- Whether a comment or the value of a key would begin inside a plain scalar. -/
def holdsIndicator : List Char → Bool
  | a :: b :: rest =>
    b == '#' && (isBlank a || isBreak a) || b == ':' && endsWord rest || holdsIndicator (b :: rest)
  | _ => false

/-- Whether some character of one kind stands right before one of another. -/
def adjoins (p q : Char → Bool) (s : List Char) : Bool :=
  (s.zip (s.drop 1)).any fun (a, b) => p a && q b

def isSpace (c : Char) : Bool := c == ' '

/-- Whether all characters can be written without escapes and no line ends in a space. -/
def isUnescaped (s : List Char) : Bool := s.all isPrintable && !adjoins isSpace isBreak s

def isPlainSafe (s : List Char) : Bool :=
  isUnescaped s && !s.any isBreak && !beginsReserved s && !holdsIndicator s &&
    !s.head?.any isSpace && !s.getLast?.any isSpace

def isSingleSafe (s : List Char) : Bool := isUnescaped s && !adjoins isBreak isSpace s

def isLiteralSafe (s : List Char) : Bool :=
  isUnescaped s && !s.getLast?.any isSpace

/-- Whether a text, written plain, would still be that text. -/
def meansItself (s : String) : Bool :=
  plainMeaning s == .text s && !hasLeadingZero s.toList

/-- The style that a text is written in. -/
def styleOf (s : String) : Style :=
  let cs := s.toList
  if cs.contains '\n' then if isLiteralSafe cs then .literal else .doubleQuoted
  else if meansItself s && isPlainSafe cs then .plain
  else if isSingleSafe cs then .singleQuoted
  else .doubleQuoted

/-! ## The styles -/

def spaces (n : Nat) : String := String.ofList (List.replicate n ' ')

/-- The escape of a character. -/
def escape (c : Char) : String :=
  match c with
  | '\x00' => "\\0"
  | '\x07' => "\\a"
  | '\x08' => "\\b"
  | '\t' => "\\t"
  | '\n' => "\\n"
  | '\x0b' => "\\v"
  | '\x0c' => "\\f"
  | '\r' => "\\r"
  | '\x1b' => "\\e"
  | '"' => "\\\""
  | '\\' => "\\\\"
  | '\u0085' => "\\N"
  | '\u2028' => "\\L"
  | '\u2029' => "\\P"
  | c =>
    let n := c.toNat
    if n ≤ 0xFF then "\\x" ++ Text.Hex.upperPadded 2 n
    else if n ≤ 0xFFFF then "\\u" ++ Text.Hex.upperPadded 4 n
    else "\\U" ++ Text.Hex.upperPadded 8 n

def doubleQuoted (s : String) : String :=
  let write (c : Char) : String :=
    if isPrintable c && !isBreak c && c != '"' && c != '\\' then c.toString else escape c
  "\"" ++ String.join (s.toList.map write) ++ "\""

/-- Indents every line but empty ones; `fresh` says whether a line begins here. -/
def indentLines (indent : Nat) : Bool → List Char → List Char
  | _, [] => []
  | fresh, c :: rest =>
    if isBreak c then c :: indentLines indent true rest
    else (if fresh then List.replicate indent ' ' else []) ++ c :: indentLines indent false rest

/-- A quote inside is written twice; the quote that ends a text after a break is indented. -/
def singleQuoted (indent : Nat) (s : String) : String :=
  let doubled := s.toList.flatMap fun c => if c == '\'' then ['\'', '\''] else [c]
  let closing := if s.toList.getLast?.any isBreak then spaces indent else ""
  "'" ++ String.ofList (indentLines indent false doubled) ++ closing ++ "'"

/-- The step of indentation. -/
def indentStep : Nat := 2

/-- The indicators of a literal block: the indentation if the text does not show it, and what
becomes of the breaks at its end. -/
def literalHeader (s : List Char) : String :=
  let stated := if s.head?.any fun c => isSpace c || isBreak c then toString indentStep else ""
  let chomping := match s.reverse with
    | [] => "-"
    | c :: before =>
      if !isBreak c then "-"
      else match before with
        | [] => "+"
        | b :: _ => if isBreak b then "+" else ""
  "|" ++ stated ++ chomping

def literal (indent : Nat) (s : String) : String :=
  literalHeader s.toList ++ "\n" ++ String.ofList (indentLines indent true s.toList)

/-- A text in its style, indented where it has lines of its own. -/
def writeText (indent : Nat) (s : String) : String :=
  match styleOf s with
  | .plain => s
  | .singleQuoted => singleQuoted indent s
  | .literal | .folded => literal indent s
  | .doubleQuoted => doubleQuoted s

/-! ## Mappings -/

/-- What is written: texts, words that are written as they are, and mappings with plain keys. -/
inductive Block where
  | word (s : String)
  | text (s : String)
  | mapping (members : List (String × Block))

/-- Ends the line, unless a break has ended it. -/
def endLine (s : String) : String := if s.toList.getLast?.any isBreak then s else s ++ "\n"

mutual

/-- A value after its key, at an indentation. -/
def Block.write (indent : Nat) : Block → String
  | .word s => " " ++ s ++ "\n"
  | .text s => endLine (" " ++ writeText (indent + indentStep) s)
  | .mapping members => "\n" ++ writeMembers (indent + indentStep) members

/-- The members of a mapping, one after another. -/
def writeMembers (indent : Nat) : List (String × Block) → String
  | [] => ""
  | (key, value) :: rest =>
    spaces indent ++ key ++ ":" ++ value.write indent ++ writeMembers indent rest

end

end DeviceAdmission.Yaml
