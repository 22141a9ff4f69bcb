/-!
# Invocations

What the tool is asked to do, read from its arguments. Its options come first, each at most once,
and then a command with its operands; after `--` every argument is an operand.
-/
namespace DeviceAdmission.CommandLine

inductive Command where
  /-- Checks a device id against the configured policy. -/
  | checkId (id : String)
  /-- Reports on the certificates in a PEM file. -/
  | inspectCertificates (path : String) (json : Bool)
  | showConfig
  | showVersion
  deriving DecidableEq, Repr

structure Options where
  configPath : Option String := none
  logLevel : Option String := none
  debug : Bool := false
  deriving DecidableEq, Repr

/-- The options that take a value. -/
inductive Setting where
  | configPath | logLevel
  deriving DecidableEq, Repr

structure Invocation where
  options : Options
  command : Command
  deriving DecidableEq, Repr

/-- Whether an argument is an option or a flag; a single dash is an operand. -/
def isOption (arg : String) : Bool := arg != "-" && arg.toList.head? == some '-'

namespace Options

/-- Sets an option that has not been set; the path of a file must not be empty. -/
def set? (o : Options) (setting : Setting) (value : String) : Option Options :=
  match setting with
  | .configPath =>
    if o.configPath.isSome || value.isEmpty then none else some { o with configPath := some value }
  | .logLevel => if o.logLevel.isSome then none else some { o with logLevel := some value }

def setDebug? (o : Options) : Option Options :=
  if o.debug then none else some { o with debug := true }

/-- Sets an option whose value is written after its letter, maybe after an equals sign. Without one
the option waits for the next argument. -/
def attach? (o : Options) (setting : Setting) (value : List Char) :
    Option (Options × Option Setting) :=
  match value with
  | [] => some (o, some setting)
  | '=' :: value => (o.set? setting (String.ofList value)).map (·, none)
  | value => (o.set? setting (String.ofList value)).map (·, none)

/-- Takes the letters after a dash: any number of flags, and an option that ends them. -/
def takeLetters? (o : Options) : List Char → Option (Options × Option Setting)
  | [] => some (o, none)
  | 'd' :: rest => o.setDebug?.bind fun o => o.takeLetters? rest
  | 'c' :: value => o.attach? .configPath value
  | 'l' :: value => o.attach? .logLevel value
  | _ => none

/-- Takes the name after two dashes, and the value after an equals sign. -/
def takeName? (o : Options) (name : String) (value : Option String) :
    Option (Options × Option Setting) :=
  let setting (s : Setting) : Option (Options × Option Setting) :=
    match value with
    | none => some (o, some s)
    | some value => (o.set? s value).map (·, none)
  match name with
  | "config" => setting .configPath
  | "log-level" => setting .logLevel
  | "debug" => if value.isSome then none else o.setDebug?.map (·, none)
  | _ => none

/-- Takes an argument that is an option. Gives the setting that waits for its value, if one does. -/
def take? (o : Options) (arg : String) : Option (Options × Option Setting) :=
  match arg.toList with
  | '-' :: '-' :: rest =>
    let name := String.ofList (rest.takeWhile (· != '='))
    let value := match rest.dropWhile (· != '=') with
      | [] => none
      | _ :: value => some (String.ofList value)
    o.takeName? name value
  | '-' :: letters => o.takeLetters? letters
  | _ => none

end Options

/-- The operands among arguments, and the flags among those before `--`; none if there is another
flag. -/
def operands? (flags : List String) : List String → Option (List String × List String)
  | [] => some ([], [])
  | arg :: rest =>
    if arg == "--" then some (rest, [])
    else if isOption arg then
      if flags.contains arg then
        (operands? flags rest).map fun (operands, found) => (operands, arg :: found)
      else none
    else (operands? flags rest).map fun (operands, found) => (arg :: operands, found)

namespace Command

/-- The flag that asks for a report in JSON. -/
def jsonFlag : String := "--json"

/-- A command by its name and its arguments. -/
def parse? (name : String) (args : List String) : Option Command :=
  match name with
  | "check-id" =>
    match operands? [] args with
    | some ([id], _) => some (.checkId id)
    | _ => none
  | "inspect-cert" =>
    match operands? [jsonFlag] args with
    | some ([path], found) =>
      if path.isEmpty || 1 < found.length then none
      else some (.inspectCertificates path (!found.isEmpty))
    | _ => none
  | "config" => if operands? [] args == some ([], []) then some .showConfig else none
  | "version" => if operands? [] args == some ([], []) then some .showVersion else none
  | _ => none

end Command

namespace Invocation

/-- Reads arguments after some options. -/
def parseAfter (o : Options) : List String → Option Invocation
  | [] => none
  | arg :: rest =>
    if isOption arg then
      match o.take? arg, rest with
      | none, _ => none
      | some (o, none), rest => parseAfter o rest
      | some (_, some _), [] => none
      | some (o, some setting), value :: rest =>
        if isOption value then none
        else match o.set? setting value with
          | none => none
          | some o => parseAfter o rest
    else (Command.parse? arg rest).map (⟨o, ·⟩)

/-- Reads the arguments of the tool; none if they are not in order. -/
def parse? (args : List String) : Option Invocation := parseAfter {} args

end Invocation

end DeviceAdmission.CommandLine
