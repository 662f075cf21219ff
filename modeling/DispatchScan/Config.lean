import DispatchScan.Dispatch
import DispatchScan.Files
import DispatchScan.Json.Print
import DispatchScan.Json.Record

/-!
# Configuration

The strategy of the scan and the node that addresses are looked up at. A configuration is a JSON
record in which every field may be left out, at both levels, and unknown keys do not matter; a field
that is given twice is refused. The text of a configuration names every field.
-/

namespace DispatchScan

/-- How to reach a node and which state to ask it for. -/
structure NodeSettings where
  /-- The address of the node on the network. -/
  endpoint : String
  /-- How many seconds to wait for an answer. -/
  timeoutSeconds : UInt64
  /-- The state to ask for, as a name or a block number. -/
  blockTag : String
  deriving DecidableEq, Repr

/-- The default node, on this machine. -/
def NodeSettings.default : NodeSettings :=
  ⟨"http://localhost:8545", 30, "latest"⟩

/-- The default settings for a node elsewhere. -/
def NodeSettings.withEndpoint (endpoint : String) : NodeSettings :=
  { NodeSettings.default with endpoint }

/-- The configuration of the command line and of the service. -/
structure Config where
  /-- Which occurrences of a probe are examined. -/
  scan : Strategy
  /-- The node for addresses. -/
  node : NodeSettings
  deriving DecidableEq, Repr

/-- The default configuration. -/
def Config.default : Config :=
  ⟨.firstOccurrence, .default⟩

/-- The names of the strategies in JSON texts. -/
def Strategy.names : List (String × Strategy) :=
  [("first_occurrence", .firstOccurrence), ("all_occurrences", .allOccurrences)]

/-- The name of a strategy in JSON texts. -/
def Strategy.name : Strategy → String
  | .firstOccurrence => "first_occurrence"
  | .allOccurrences => "all_occurrences"

/-- Read the name of a strategy. -/
def Strategy.reader : Json.Reader Strategy :=
  Json.Reader.choice Strategy.names

namespace NodeSettings

/-- The fields of the settings. -/
def fields : List (Json.Field NodeSettings) :=
  [⟨"endpoint", true, fun s => return { s with endpoint := ← Json.Reader.text }⟩,
   ⟨"timeout_secs", true, fun s =>
      return { s with timeoutSeconds := UInt64.ofNat (← Json.Reader.natural) }⟩,
   ⟨"block_tag", true, fun s => return { s with blockTag := ← Json.Reader.text }⟩]

/-- Read settings; fields left out have their defaults. -/
def reader : Json.Reader NodeSettings :=
  Json.Reader.record "RpcConfig" fields .default

/-- The object of the settings. -/
def toJson (s : NodeSettings) : Json.Value :=
  .object [("endpoint", .string s.endpoint),
    ("timeout_secs", .number (.natural s.timeoutSeconds.toNat)),
    ("block_tag", .string s.blockTag)]

end NodeSettings

namespace Config

/-- The fields of a configuration. -/
def fields : List (Json.Field Config) :=
  [⟨"scan", true, fun c => return { c with scan := ← Strategy.reader }⟩,
   ⟨"rpc", true, fun c => return { c with node := ← NodeSettings.reader }⟩]

/-- Read a configuration; fields left out have their defaults. -/
def reader : Json.Reader Config :=
  Json.Reader.record "ProbeConfig" fields .default

/-- Read a text that holds one configuration and nothing else. -/
def parse (text : String) : Except Json.Located Config :=
  Json.run (do let c ← reader; Json.Reader.finish; pure c) (Text.utf8 text)

/-- The object of a configuration. -/
def toJson (c : Config) : Json.Value :=
  .object [("scan", .string c.scan.name), ("rpc", c.node.toJson)]

/-- The compact text of a configuration. -/
def render (c : Config) : String :=
  c.toJson.render

/-- Why no configuration could be loaded. -/
inductive LoadError where
  /-- The file cannot be read. -/
  | unreadable (path : String) (error : FileError)
  /-- The text is no configuration. -/
  | malformed (fault : Json.Located)
  deriving DecidableEq, Repr

/-- The wording of a loading error. -/
def LoadError.message : LoadError → String
  | .unreadable path error => s!"could not read config '{path}': {error.message}"
  | .malformed fault => s!"invalid config: {fault.message}"

/-- Load a configuration from its text. -/
def ofText (text : String) : Except LoadError Config :=
  (parse text).mapError LoadError.malformed

/-- Load a configuration from a file. -/
def ofFile (read : ReadFile) (path : String) : Except LoadError Config :=
  match readText read path with
  | .error error => .error (.unreadable path error)
  | .ok text => ofText text

/-- Load the configuration at a path, or take the default one when no path is given. -/
def load (read : ReadFile) : Option String → Except LoadError Config
  | none => .ok .default
  | some path => ofFile read path

end Config

end DispatchScan
