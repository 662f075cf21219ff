import DispatchScan.Assessment
import DispatchScan.Hex.Spelling
import DispatchScan.Service.Payload

/-!
# The service

A service answers requests by its configuration alone: whether it is up, the signatures of an ABI
and whether bytecode satisfies an ABI. A check looks at its inputs in the order bytecode, ABI. The
service shares its answers with every origin and allows every method and header to be asked for.
-/

namespace DispatchScan.Service

/-- The name of the service. -/
def name : String := "abiprobe-api"

/-- The version of the service. -/
def version : String := "0.1.0"

/-- The answer to whether the service is up. -/
def health (config : Config) : Answer :=
  .of .ok <| .json <| .object
    [("status", .string "healthy"), ("service", .string name), ("version", .string version),
      ("scan", .string config.scan.name)]

/-- Why a well-formed request was turned down. -/
inductive Refusal where
  /-- The bytecode spells no byte string. -/
  | bytecode (error : Hex.SpellingError)
  /-- An input is absent or wrong. -/
  | check (error : CheckError)
  deriving DecidableEq, Repr

/-- The heading of a refusal. -/
def Refusal.heading : Refusal → String
  | bytecode _ => "Invalid hex bytecode"
  | check (.missing _) => "Missing input"
  | check _ => "Invalid ABI"

/-- The details of a refusal. -/
def Refusal.details : Refusal → String
  | bytecode error => error.message
  | check error => error.message

/-- The object of a refusal. -/
def Refusal.toJson (refusal : Refusal) : Json.Value :=
  .object [("error", .string refusal.heading), ("details", .string refusal.details)]

/-- The object for one declared function. -/
def signatureJson (d : Declaration) : Json.Value :=
  .object [("signature", .string d.signature), ("selector", .string d.selector.text)]

/-- The array for the functions of an ABI. -/
def signatures (query : SignatureQuery) : Except Refusal Json.Value :=
  match Abi.ofJson query.abi with
  | .error error => .error (.check error)
  | .ok abi => .ok (.array (abi.functions.map signatureJson))

/-- The object for the outcome of one function. -/
def findingJson (finding : Finding) : Json.Value :=
  .object [("signature", .string finding.signature), ("selector", .string finding.selector),
    ("matched", .bool finding.found)]

/-- The object for a report. -/
def reportJson (findings : List Finding) : Json.Value :=
  .object [("satisfied", .bool (findings.all Finding.found)),
    ("functions", .array (findings.map findingJson))]

/-- Check the plain form of bytecode. -/
def checkPlain (config : Config) (query : CheckQuery) (bytecode : String) :
    Except CheckError (List Finding) := do
  Assessment.requireBytecode bytecode
  let abi ← Abi.ofJson query.abi
  Assessment.report bytecode abi (query.scan.getD config.scan)

/-- Check bytecode against an ABI. Bytecode that is left out counts as empty. -/
def check (config : Config) (query : CheckQuery) : Except Refusal Json.Value :=
  match Hex.normalize (query.bytecode.getD "") with
  | .error error => .error (.bytecode error)
  | .ok bytecode =>
    match checkPlain config query bytecode with
    | .error error => .error (.check error)
    | .ok findings => .ok (reportJson findings)

/-- Serve a request by its body. -/
def serve {α : Type} (reader : Json.Reader α) (handle : α → Except Refusal Json.Value)
    (request : Request) : Answer :=
  match request.decode reader with
  | .error error => .of error.status (.text error.message)
  | .ok query =>
    match handle query with
    | .error refusal => .of .badRequest (.json refusal.toJson)
    | .ok v => .of .ok (.json v)

/-- What stands at a path. -/
inductive Route where
  /-- Whether the service is up. -/
  | health
  /-- The signatures of an ABI. -/
  | signatures
  /-- A check. -/
  | check
  deriving DecidableEq, Repr

namespace Route

/-- Find what stands at a path. -/
def ofPath? : String → Option Route
  | "/" => some health
  | "/signature" => some signatures
  | "/satisfies" => some check
  | _ => none

/-- The methods that may be used, as they are listed in a header. -/
def allowed : Route → String
  | health => "GET,HEAD"
  | signatures => "POST"
  | check => "POST"

/-- Answer a request to a known path. -/
def answer (config : Config) (route : Route) (request : Request) : Answer :=
  match route, request.method with
  | health, "GET" => Service.health config
  | health, "HEAD" => (Service.health config).headersOnly
  | signatures, "POST" => serve SignatureQuery.reader Service.signatures request
  | check, "POST" => serve CheckQuery.reader (Service.check config) request
  | _, _ => (Answer.of .methodNotAllowed .nothing).withHeader "allow" route.allowed

end Route

/-- The answer to a browser that asks what it may send. -/
def preflight (route : Option Route) : Answer :=
  let answer := Answer.of .ok .nothing
    |>.withHeader "access-control-allow-methods" "*"
    |>.withHeader "access-control-allow-headers" "*"
  match route with
  | some route => answer.withHeader "allow" route.allowed
  | none => answer

/-- Answer a request, apart from the header that every answer has. -/
def dispatch (config : Config) (request : Request) : Answer :=
  let route := Route.ofPath? request.path
  if request.method = "OPTIONS" then preflight route
  else
    match route with
    | some route => route.answer config request
    | none => .of .notFound .nothing

/-- Answer a request. -/
def respond (config : Config) (request : Request) : Answer :=
  (dispatch config request).withHeader "access-control-allow-origin" "*"

end DispatchScan.Service
