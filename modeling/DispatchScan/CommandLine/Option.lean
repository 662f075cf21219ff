import DispatchScan.Dispatch

/-!
# Options of the command line

Options stand in front of the command and behind it. A switch takes no value, a setting takes one.
Some belong to every level of the command line, others to one command only.
-/

namespace DispatchScan.CommandLine

/-- The commands. -/
inductive Command where
  /-- Print signatures. -/
  | signature
  /-- Print selectors with their signatures. -/
  | selector
  /-- Check bytecode. -/
  | check
  /-- Check the contract at an address. -/
  | address
  deriving DecidableEq, Repr

namespace Command

/-- Find a command by its exact name. -/
def ofName? : String → Option Command
  | "signature" => some signature
  | "selector" => some selector
  | "check" => some check
  | "address" => some address
  | _ => none

/-- Whether a command takes an argument without option: bytecode or an address. -/
def takesOperand : Command → Bool
  | signature | selector => false
  | check | address => true

end Command

/-- A part of the command line with options of its own. -/
inductive Level where
  /-- In front of the command. -/
  | top
  /-- Behind a command. -/
  | command (c : Command)
  deriving DecidableEq, Repr

/-- An option without value. -/
inductive Switch where
  /-- Ask for the help text. -/
  | help
  /-- Ask for the version. -/
  | version
  /-- Log more. -/
  | verbose
  /-- Print a line for each function. -/
  | report
  deriving DecidableEq, Repr

/-- The long name of a switch. -/
def Switch.name : Switch → String
  | help => "help"
  | version => "version"
  | verbose => "verbose"
  | report => "report"

/-- An option with a value. -/
inductive Setting where
  /-- The configuration file. -/
  | config
  /-- The strategy. -/
  | scan
  /-- The ABI. -/
  | abi
  /-- The endpoint of the node. -/
  | endpoint
  deriving DecidableEq, Repr

/-- The long name of a setting. -/
def Setting.name : Setting → String
  | config => "config"
  | scan => "scan"
  | abi => "abi"
  | endpoint => "rpc-url"

namespace Level

/-- The switches of a level. -/
def switches : Level → List Switch
  | top => [.help, .version, .verbose]
  | command .check => [.help, .verbose, .report]
  | command _ => [.help, .verbose]

/-- The settings of a level. -/
def settings : Level → List Setting
  | top => [.config, .scan]
  | command .address => [.config, .scan, .abi, .endpoint]
  | command _ => [.config, .scan, .abi]

/-- Find a switch by its exact long name. -/
def switch? (level : Level) (name : String) : Option Switch :=
  level.switches.find? fun s => s.name == name

/-- Find a setting by its exact long name. -/
def setting? (level : Level) (name : String) : Option Setting :=
  level.settings.find? fun s => s.name == name

/-- Find a switch by its letter. -/
def letter? (level : Level) : Char → Option Switch
  | 'h' => some .help
  | 'v' => some .verbose
  | 'V' => if level = top then some .version else none
  | _ => none

end Level

/-- Find a strategy by its name on the command line. -/
def strategy? : String → Option Strategy
  | "first" => some .firstOccurrence
  | "all" => some .allOccurrences
  | _ => none

end DispatchScan.CommandLine
