import DeviceAdmission.CommandLine.Basic

/-!
The operator's tool at a terminal: takes the arguments, reads the files that they name, and prints.
-/
namespace DeviceAdmission.CommandLine

/-- How the tool is called. -/
def usage : String :=
  "usage: fleetgate [-c FILE] [-l LEVEL] [-d] COMMAND\n\n" ++
    "  check-id ID                check a device id against the configured policy\n" ++
    "  inspect-cert [--json] PEM  report on the certificates in a PEM file\n" ++
    "  config                     show the configuration in use\n" ++
    "  version                    show the version\n"

/-- What reading a file ended with. -/
def entryOf : IO.Error → Except Files.ReadError Files.Entry
  | .inappropriateType none _ _ => .ok .directory
  | .inappropriateType (some _) _ _ => .error .notDirectory
  | .permissionDenied .. => .ok (.file (.error .permissionDenied))
  | .invalidArgument .. => .error .nameTooLong
  | _ => .error .notFound

def fetch (path : String) : IO (Except Files.ReadError Files.Entry) := do
  try
    let octets ← IO.FS.readBinFile path
    return .ok (.file (.ok octets.data.toList))
  catch e => return entryOf e

/-- Where the default configuration file is. -/
def defaultConfigPath : IO String := do
  let base ← match ← IO.getEnv "XDG_CONFIG_HOME" with
    | some base => pure base
    | none => pure ((← IO.getEnv "HOME").getD "" ++ "/.config")
  return base ++ "/" ++ Config.defaultPath

/-- The paths that an invocation reads, each with the place of its file. -/
def Invocation.paths (i : Invocation) (defaultPath : String) : List (String × String) :=
  let config := match i.options.configPath with
    | some path => (path, path)
    | none => (Config.defaultPath, defaultPath)
  match i.command with
  | .inspectCertificates path _ => [config, (path, path)]
  | _ => [config]

/-- The files that an invocation reads. -/
def Invocation.fetch (i : Invocation) (defaultPath : String) : IO Files.System := do
  let found ← (i.paths defaultPath).mapM fun (path, place) => do
    return (path, ← CommandLine.fetch place)
  return fun path => (found.lookup path).getD (.error .notFound)

end DeviceAdmission.CommandLine

open DeviceAdmission.CommandLine in
def main (args : List String) : IO UInt32 := do
  match Invocation.parse? args with
  | none =>
    (← IO.getStderr).putStr usage
    return 2
  | some i =>
    let defaultPath ← defaultConfigPath
    let outcome := i.run (← i.fetch defaultPath) defaultPath (← IO.getEnv "RUST_LOG")
    (← IO.getStdout).putStr outcome.output
    (← IO.getStderr).putStr outcome.report
    return outcome.exitCode.toUInt32
