import DispatchScan.Address
import DispatchScan.Config
import DispatchScan.Node.BlockTag
import DispatchScan.Node.Endpoint
import DispatchScan.Node.Reply

/-!
# Fetching code from a node

A client is a node's checked settings: of an invalid endpoint and an invalid block tag the endpoint
is reported. It asks for the code at an address, in one request, and makes a marked text of digits
of the reply. Requests only go to endpoints of two schemes, although settings may name others. The
network itself is a function from requests to what comes of them.
-/

namespace DispatchScan.Node

/-- Why settings make no client. -/
inductive SettingsError where
  /-- The endpoint is malformed. -/
  | endpoint (text : String) (fault : EndpointFault)
  /-- The block tag is neither a name nor a number. -/
  | blockTag (text : String)
  deriving DecidableEq, Repr

/-- The wording of a settings error. -/
def SettingsError.message : SettingsError → String
  | .endpoint text fault => s!"invalid rpc endpoint '{text}': {fault.message}"
  | .blockTag text => s!"invalid block tag '{text}'"

/-- A node that can be asked. -/
structure Client where
  /-- The settings as they were given. -/
  settings : NodeSettings
  /-- Where requests go. -/
  endpoint : Endpoint
  /-- The state of the chain that is asked for. -/
  tag : BlockTag
  deriving DecidableEq, Repr

/-- What comes of sending a request. -/
inductive Delivery where
  /-- The node could not be reached. -/
  | unreachable (reason : String)
  /-- No reply came in time. -/
  | silent
  /-- The node replied. -/
  | reply (text : String)
  deriving DecidableEq, Repr

/-- Sends the text of a request to an endpoint. -/
abbrev Network := Endpoint → String → Delivery

/-- Why no code was fetched. -/
inductive FetchError where
  /-- No requests are sent under the scheme of the endpoint. -/
  | scheme (endpoint : Endpoint)
  /-- The node could not be reached. -/
  | unreachable (endpoint : Endpoint) (reason : String)
  /-- No reply came in so many seconds. -/
  | timeout (seconds : UInt64)
  /-- The node refused the request. -/
  | refused (code : Int) (message : String) (data : Option Json.Value)
  /-- The reply makes no sense. -/
  | undecodable

/-- The wording for a number of seconds: zero is given in the smallest unit. -/
def secondsText (seconds : UInt64) : String :=
  if seconds = 0 then "0ns" else s!"{seconds}s"

/-- The wording for the data of a refusal. -/
def dataText : Option Json.Value → String
  | none => "None"
  | some data => s!"Some({data.render})"

/-- The wording of a fetch error. -/
def FetchError.message : FetchError → String
  | .scheme endpoint => s!"builder error for url ({endpoint.text}): URL scheme is not allowed"
  | .unreachable endpoint reason => s!"error sending request for url ({endpoint.text}): {reason}"
  | .timeout seconds => s!"rpc request timed out after {secondsText seconds}"
  | .refused code message data => s!"(code: {code}, message: {message}, data: {dataText data})"
  | .undecodable => "the reply could not be decoded"

namespace Client

/-- Check settings, the endpoint first. -/
def ofSettings (settings : NodeSettings) : Except SettingsError Client :=
  match Endpoint.parse settings.endpoint with
  | .error fault => .error (.endpoint settings.endpoint fault)
  | .ok endpoint =>
    match BlockTag.parse? settings.blockTag with
    | none => .error (.blockTag settings.blockTag)
    | some tag => .ok ⟨settings, endpoint, tag⟩

/-- The request number `id` for the code at an address. -/
def codeRequest (client : Client) (id : Nat) (address : Address) : Json.Value :=
  .object [("jsonrpc", .string "2.0"), ("id", .number (.natural id)),
    ("method", .string "eth_getCode"),
    ("params", .texts [address.text, client.tag.text])]

/-- The code at an address as digits with the mark. -/
def codeText (bytes : List UInt8) : String :=
  String.ofList ('0' :: 'x' :: Hex.digits bytes)

/-- Make a text of digits of what came of a request. -/
def receive (client : Client) : Delivery → Except FetchError String
  | .unreachable reason => .error (.unreachable client.endpoint reason)
  | .silent => .error (.timeout client.settings.timeoutSeconds)
  | .reply text =>
    match Reply.parse? text with
    | some (.code bytes) => .ok (codeText bytes)
    | some (.refused code message data) => .error (.refused code message data)
    | none => .error .undecodable

/-- Whether requests are sent under the scheme of the endpoint. -/
def sends (client : Client) : Bool :=
  client.endpoint.scheme == "http" || client.endpoint.scheme == "https"

/-- Fetch the code at an address by request number `id`. -/
def fetch (client : Client) (network : Network) (id : Nat) (address : Address) :
    Except FetchError String :=
  if client.sends then
    client.receive (network client.endpoint (client.codeRequest id address).render)
  else .error (.scheme client.endpoint)

end Client

end DispatchScan.Node
