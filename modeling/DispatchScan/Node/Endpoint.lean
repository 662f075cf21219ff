import DispatchScan.Node.Host
import DispatchScan.Node.Path

/-!
# Endpoints

The network address of a node. Any scheme is accepted, but where an address names a host, the host
and the port must be well formed, and in the schemes of the web there must be a host. An accepted
endpoint is shown in a normal form: scheme and host in lowercase, no credentials, no port that the
scheme implies, and everything behind them percent-encoded.
-/

namespace DispatchScan.Node

/-- Why a text is no endpoint. -/
inductive EndpointFault where
  /-- There is no scheme in front. -/
  | noScheme
  /-- The host is refused. -/
  | host (fault : HostFault)
  /-- The port is no number below 65536. -/
  | port
  deriving DecidableEq, Repr

/-- The wording of an endpoint fault. -/
def EndpointFault.message : EndpointFault → String
  | .noScheme => "relative URL without a base"
  | .host .empty => "empty host"
  | .host .ipv6 => "invalid IPv6 address"
  | .host .ipv4 => "invalid IPv4 address"
  | .host .domain => "invalid international domain name"
  | .host .character => "invalid domain character"
  | .port => "invalid port number"

/-- The host of an endpoint and how to reach it. -/
structure Authority where
  /-- The host. -/
  host : Host
  /-- The port, unless the scheme implies it. -/
  port : Option Nat
  deriving DecidableEq, Repr

/-- An accepted endpoint. -/
structure Endpoint where
  /-- The scheme, in lowercase. -/
  scheme : String
  /-- The host and the port, where the address has a place for them. -/
  authority : Option Authority
  /-- The path in its normal form. -/
  path : String
  /-- The text behind the question mark. -/
  query : Option String
  /-- The text behind the number sign. -/
  fragment : Option String
  deriving DecidableEq, Repr

/-- A host and a port as they are shown. -/
def Authority.text (authority : Authority) : String :=
  match authority.port with
  | none => authority.host.text
  | some port => s!"{authority.host.text}:{port}"

/-- A text behind a mark, where there is one. -/
def markedText (mark : String) : Option String → String
  | none => ""
  | some text => mark ++ text

/-- An endpoint as it is shown. A path that could be taken for a host gets a segment in front. -/
def Endpoint.text (endpoint : Endpoint) : String :=
  let front :=
    match endpoint.authority with
    | some authority => "//" ++ authority.text
    | none => if endpoint.path.startsWith "//" then "/." else ""
  endpoint.scheme ++ ":" ++ front ++ endpoint.path ++ markedText "?" endpoint.query
    ++ markedText "#" endpoint.fragment

/-- The port that a scheme of the web implies; none for all other schemes. -/
def impliedPort? (scheme : String) : Option Nat :=
  [("http", 80), ("https", 443), ("ws", 80), ("wss", 443), ("ftp", 21)].lookup scheme

/-- Whether a character may surround an address. -/
def isMargin (c : Char) : Bool := c.toNat ≤ 0x20

/-- The characters of an address: no margin, no tabs and no line ends. -/
def addressChars (text : String) : List Char :=
  let trimmed := ((text.toList.dropWhile isMargin).reverse.dropWhile isMargin).reverse
  trimmed.filter fun c => c != '\t' && c != '\n' && c != '\r'

/-- Whether a character may stand in a scheme after its first letter. -/
def isSchemeChar (c : Char) : Bool :=
  c.isAlphanum || c == '+' || c == '-' || c == '.'

/-- Split an address into its lowercase scheme and what follows the colon. -/
def splitScheme? (cs : List Char) : Option (String × List Char) :=
  let scheme := cs.takeWhile isSchemeChar
  match cs.drop scheme.length with
  | ':' :: rest =>
    if scheme.head?.any Char.isAlpha then some (String.ofList (scheme.map Char.toLower), rest)
    else none
  | _ => none

/-- Whether a character parts the segments of a path. -/
def isSlash (web : Bool) (c : Char) : Bool :=
  c == '/' || (web && c == '\\')

/-- Whether a character ends the part of an address with host and port. -/
def endsAuthority (web : Bool) (c : Char) : Bool :=
  isSlash web c || c == '?' || c == '#'

/-- Split an address after its scheme into host and port, and what follows. -/
def splitAuthority (web : Bool) (cs : List Char) : List Char × List Char :=
  let authority := cs.takeWhile fun c => !endsAuthority web c
  (authority, cs.drop authority.length)

/-- What stands before the last `@`, if there is one, and what stands after it. -/
def splitCredentials (authority : List Char) : Option (List Char) × List Char :=
  let host := (authority.reverse.takeWhile (· != '@')).reverse
  if host.length = authority.length then (none, host)
  else (some (authority.take (authority.length - host.length - 1)), host)

/-- The host in front of the first colon outside of brackets, and what stands after this colon. -/
def splitPort : Bool → List Char → List Char × Option (List Char)
  | _, [] => ([], none)
  | inside, c :: cs =>
    if c = ':' ∧ ¬ inside then ([], some cs)
    else
      let (host, port) := splitPort (c = '[' || (inside && c != ']')) cs
      (c :: host, port)

/-- Read a port, which ends in front of a backslash, and give what follows. No digits stand for no
port. -/
def readPort (port : List Char) : Except EndpointFault (Option Nat × List Char) :=
  let digits := port.takeWhile Char.isDigit
  let rest := port.drop digits.length
  if !(rest.isEmpty || rest.head? == some '\\') then .error .port
  else if digits.isEmpty then .ok (none, rest)
  else
    match numberIn? 10 digits with
    | some n => if n < 65536 then .ok (some n, rest) else .error .port
    | none => .error .port

/-- Whether credentials name a user or a password. -/
def namesUser (credentials : List Char) : Bool :=
  !(credentials.isEmpty || credentials == [':'])

/-- Judge the credentials, the host and the port of an address, and give what is left. The host may
only be missing outside of the web, and then neither a port nor a user may be there; behind empty
credentials it may only be missing at the end of the address, which `atEnd` tells. -/
def readAuthority (web atEnd : Bool) (implied : Option Nat) (text : List Char) :
    Except EndpointFault (Authority × List Char) := do
  let (credentials, hostAndPort) := splitCredentials text
  if credentials == some [] && hostAndPort.isEmpty && !atEnd then throw (.host .empty)
  let (host, port) := splitPort false hostAndPort
  if host.isEmpty && (web || port.isSome || credentials.any namesUser) then
    throw (.host .empty)
  let host ← (if web then webHost host else otherHost host).mapError EndpointFault.host
  let (port, rest) ← readPort (port.getD [])
  return (⟨host, if port = implied then none else port⟩, rest)

/-- The characters that are percent-encoded in a query. -/
def queryMarks (web : Bool) : String :=
  if web then " \"#<>'" else " \"#<>"

/-- The characters that are percent-encoded in a fragment. -/
def fragmentMarks : String := " \"<>`"

/-- The path in front of a query and a fragment. -/
def pathChars (cs : List Char) : List Char :=
  cs.takeWhile fun c => c != '?' && c != '#'

/-- Make an endpoint of what stands behind the host, given how to put its path into normal form. -/
def makeEndpoint (scheme : String) (web : Bool) (authority : Option Authority)
    (normal : List Char → List Char) (cs : List Char) : Endpoint :=
  let path := pathChars cs
  let query :=
    match cs.drop path.length with
    | '?' :: rest =>
      some (String.ofList (percentEncode (queryMarks web) (rest.takeWhile (· != '#'))))
    | _ => none
  let fragment :=
    match cs.dropWhile (· != '#') with
    | _ :: rest => some (String.ofList (percentEncode fragmentMarks rest))
    | [] => none
  ⟨scheme, authority, String.ofList (normal path), query, fragment⟩

/-- Read the host of a file address behind the two slashes. The host of the machine itself is none,
and neither is the letter of a drive, which belongs to the path. -/
def readFileHost (cs : List Char) : Except EndpointFault (Host × List Char) := do
  let (text, rest) := splitAuthority true cs
  if isDrive text then return (.domain "", cs)
  if text.isEmpty then return (.domain "", rest)
  let host ← (webHost text).mapError EndpointFault.host
  return (if host = .domain "localhost" then .domain "" else host, rest)

/-- Read the address of a file after the colon of its scheme. A drive belongs to no host. -/
def readFile (cs : List Char) : Except EndpointFault Endpoint := do
  let (host, rest) ←
    match cs with
    | a :: b :: rest =>
      if isSlash true a && isSlash true b then readFileHost rest else .ok (.domain "", cs)
    | _ => .ok (.domain "", cs)
  let host := if (followFile (pathChars rest)).onDrive then .domain "" else host
  return makeEndpoint "file" true (some ⟨host, none⟩) filePath rest

/-- Read an endpoint. -/
def Endpoint.parse (text : String) : Except EndpointFault Endpoint := do
  match splitScheme? (addressChars text) with
  | none => throw .noScheme
  | some (scheme, rest) =>
    match impliedPort? scheme with
    | some port =>
      let (host, rest) := splitAuthority true (rest.dropWhile (isSlash true))
      let (authority, _) ← readAuthority true rest.isEmpty (some port) host
      return makeEndpoint scheme true (some authority) (normalPath true) rest
    | none =>
      if scheme = "file" then readFile rest
      else
        match rest with
        | '/' :: '/' :: rest =>
          let (host, rest) := splitAuthority false rest
          let (authority, left) ← readAuthority false rest.isEmpty none host
          return makeEndpoint scheme false (some authority) (normalPath false) (left ++ rest)
        | '/' :: _ => return makeEndpoint scheme false none (normalPath false) rest
        | _ => return makeEndpoint scheme false none (percentEncode "") rest

end DispatchScan.Node
