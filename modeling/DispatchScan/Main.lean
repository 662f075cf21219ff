import DispatchScan.CommandLine.Printing

/-!
# The program

Reads the files that the arguments name, runs the command and writes its entries as they come, and
a failure behind them. The program has no network of its own: to it, every node is unreachable.
-/

namespace DispatchScan

/-- The file error for an error of the system. -/
def FileError.ofSystem : IO.Error → FileError
  | .noFileOrDirectory .. => .notFound
  | .inappropriateType _ 21 _ => .isDirectory
  | .inappropriateType .. => .notDirectory
  | e => .system (toString e)

/-- Read a file as bytes. -/
def readBytes (path : String) : IO (Except FileError (List UInt8)) := do
  try
    let bytes ← IO.FS.readBinFile path
    return .ok bytes.toList
  catch e => return .error (.ofSystem e)

/-- Read several files, each under its path. -/
def readAll (paths : List String) : IO (List (String × Except FileError (List UInt8))) :=
  paths.mapM fun path => return (path, ← readBytes path)

/-- Give the files that were read; there are no others. -/
def lookupFile (files : List (String × Except FileError (List UInt8))) : ReadFile := fun path =>
  (files.lookup path).getD (.error .notFound)

/-- No node is reachable. -/
def noNetwork : Node.Network := fun _ _ => .unreachable "no network"

/-- The line for arguments that nothing is run for. -/
def CommandLine.Usage.line : CommandLine.Usage → String
  | .help | .nothingGiven => "usage: abiprobe [OPTIONS] signature|selector|check|address ..."
  | .version => versionText
  | .noCommand => "error: a command is required"
  | .unknownCommand text => s!"error: unrecognized command '{text}'"
  | .unknownArgument text => s!"error: unexpected argument '{text}'"
  | .badValue setting => s!"error: invalid value for '--{setting.name}'"
  | .repeatedSetting setting => s!"error: '--{setting.name}' cannot be used twice"
  | .repeatedSwitch switch => s!"error: '--{switch.name}' cannot be used twice"
  | .unwantedValue switch => s!"error: '--{switch.name}' takes no value"
  | .missingArgument => "error: a required argument was not given"

end DispatchScan

open DispatchScan in
/-- Run the program with its arguments. -/
def main (args : List String) : IO UInt32 := do
  let environment ← IO.getEnv "ABIPROBE_RPC_URL"
  match CommandLine.Invocation.parse environment args with
  | .error usage =>
    if usage.exitCode = 0 then IO.println usage.line else IO.eprintln usage.line
    return usage.exitCode
  | .ok invocation =>
    let files ← readAll invocation.files
    let result ← (invocation.perform (fun entry => IO.println entry)
      ⟨lookupFile files, noNetwork⟩).run
    let outcome := CommandLine.Outcome.after [] result
    IO.eprint outcome.errorOutput
    return outcome.exitCode
