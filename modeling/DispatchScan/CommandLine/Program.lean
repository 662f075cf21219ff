import DispatchScan.Bytecode
import DispatchScan.CommandLine.Arguments
import DispatchScan.Deployment
import DispatchScan.Node.Client

/-!
# Running a command

A run reads files and may ask a node; both are functions handed to it. It either fails, and then
prints nothing but the failure, or completes with a list of printed entries and an answer. The
configuration is loaded first, then the inputs are looked at in the order ABI, bytecode or node,
address.
-/

namespace DispatchScan.CommandLine

/-- What a run can reach outside of itself. -/
structure Surroundings where
  /-- Reads files. -/
  read : ReadFile
  /-- Sends requests to nodes. -/
  network : Node.Network

/-- Why a run failed. -/
inductive Failure where
  /-- The configuration could not be loaded. -/
  | config (error : Config.LoadError)
  /-- The file with the ABI cannot be read. -/
  | abiFile (path : String) (error : FileError)
  /-- The bytecode could not be loaded. -/
  | bytecode (error : Bytecode.LoadError)
  /-- The check was refused. -/
  | check (error : CheckError)
  /-- The settings of the node are faulty. -/
  | node (error : Node.SettingsError)
  /-- The contract at an address could not be assessed. -/
  | deployment (error : Deployment.AssessError Node.FetchError)

/-- The wording of a failure. -/
def Failure.message : Failure → String
  | config error => error.message
  | abiFile path error => s!"could not read ABI file '{path}': {error.message}"
  | bytecode error => error.message
  | check error => error.message
  | node error => error.message
  | deployment error => error.message Node.FetchError.message

/-- What a completed run gives. -/
structure Completion where
  /-- The printed entries, one after the other. -/
  entries : List String
  /-- The answer; listings always answer with yes. -/
  satisfied : Bool
  deriving DecidableEq, Repr

/-- The file that an argument names, if it names one by a leading `@`. -/
def filePath? (argument : String) : Option String :=
  match argument.toList with
  | '@' :: path => some (String.ofList path)
  | _ => none

/-- Load an ABI from an argument. -/
def loadAbi (read : ReadFile) (argument : String) : Except Failure Abi :=
  match filePath? argument with
  | none => (Abi.parse argument).mapError Failure.check
  | some path =>
    match readText read path with
    | .error error => .error (.abiFile path error)
    | .ok text => (Abi.parse text).mapError Failure.check

/-- Load bytecode from an argument. -/
def loadBytecode (read : ReadFile) (argument : String) : Except Failure String :=
  match filePath? argument with
  | none => (Bytecode.ofText argument).mapError Failure.bytecode
  | some path => (Bytecode.ofFile read path).mapError Failure.bytecode

/-- The entry of a function in a list of selectors. -/
def selectorEntry (d : Declaration) : String :=
  s!"0x{d.selector.text}  {d.signature}"

/-- The entry of a function in a report. -/
def findingEntry (finding : Finding) : String :=
  let mark := if finding.found then "found" else "missing"
  s!"0x{finding.selector}  {finding.signature}  {mark}"

/-- The entry of a verdict. -/
def verdictEntry (satisfied : Bool) : String :=
  if satisfied then "true" else "false"

/-- List what is printed for each function of an ABI. -/
def list (entry : Declaration → String) (abi : Abi) : Completion :=
  ⟨abi.functions.map entry, true⟩

/-- Check bytecode, with or without an entry for each function. -/
def check (bytecode : String) (abi : Abi) (strategy : Strategy) (report : Bool) :
    Except CheckError Completion :=
  if report then do
    let findings ← Assessment.report bytecode abi strategy
    let satisfied := findings.all Finding.found
    return ⟨findings.map findingEntry ++ [verdictEntry satisfied], satisfied⟩
  else do
    let satisfied ← Assessment.satisfies bytecode abi strategy
    return ⟨[verdictEntry satisfied], satisfied⟩

/-- Check the contract at an address. -/
def checkDeployed (network : Node.Network) (settings : NodeSettings) (address : String) (abi : Abi)
    (strategy : Strategy) : Except Failure Completion := do
  let client ← (Node.Client.ofSettings settings).mapError Failure.node
  let run := Deployment.assess (client.fetch network 1) address abi strategy
  let satisfied ← run.result.mapError Failure.deployment
  return ⟨[verdictEntry satisfied], satisfied⟩

/-- Carry out an action under a configuration. -/
def Action.run (surroundings : Surroundings) (config : Config) :
    Action → Except Failure Completion
  | .signature abi => do
    let abi ← loadAbi surroundings.read abi
    return list Declaration.signature abi
  | .selector abi => do
    let abi ← loadAbi surroundings.read abi
    return list selectorEntry abi
  | .check abi bytecode report => do
    let abi ← loadAbi surroundings.read abi
    let bytecode ← loadBytecode surroundings.read bytecode
    (CommandLine.check bytecode abi config.scan report).mapError Failure.check
  | .address abi text endpoint => do
    let abi ← loadAbi surroundings.read abi
    let settings := { config.node with endpoint := endpoint.getD config.node.endpoint }
    checkDeployed surroundings.network settings text abi config.scan

/-- The configuration of an invocation. -/
def Invocation.load (read : ReadFile) (invocation : Invocation) : Except Failure Config := do
  let config ← (Config.load read invocation.config).mapError Failure.config
  return { config with scan := invocation.scan.getD config.scan }

/-- Run an invocation. -/
def Invocation.run (surroundings : Surroundings) (invocation : Invocation) :
    Except Failure Completion := do
  let config ← invocation.load surroundings.read
  invocation.action.run surroundings config

/-- What a run leaves behind. -/
structure Outcome where
  /-- The exit code. -/
  exitCode : UInt32
  /-- The entries on the standard output, each ended by a line feed. -/
  entries : List String
  /-- The failure on the standard error output. -/
  failure : Option String
  deriving DecidableEq, Repr

/-- The outcome of a run: 0 for yes, 1 for no and 2 for a failure. -/
def Outcome.of : Except Failure Completion → Outcome
  | .ok completion => ⟨if completion.satisfied then 0 else 1, completion.entries, none⟩
  | .error failure => ⟨2, [], some failure.message⟩

/-- The text on the standard output. -/
def Outcome.output (outcome : Outcome) : String :=
  String.join (outcome.entries.map (· ++ "\n"))

/-- The text on the standard error output. -/
def Outcome.errorOutput (outcome : Outcome) : String :=
  match outcome.failure with
  | some message => s!"error: {message}\n"
  | none => ""

/-- The files that an invocation may read. -/
def Invocation.files (invocation : Invocation) : List String :=
  let arguments :=
    match invocation.action with
    | .signature abi => [abi]
    | .selector abi => [abi]
    | .check abi bytecode _ => [abi, bytecode]
    | .address abi _ _ => [abi]
  invocation.config.toList ++ arguments.filterMap filePath?

/-- The name and version of the program. -/
def versionText : String := "abiprobe 0.1.0"

/-- The exit code when nothing is run: asking for help or the version is no error. -/
def Usage.exitCode : Usage → UInt32
  | help | version => 0
  | _ => 2

end DispatchScan.CommandLine
