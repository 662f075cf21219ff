import DispatchScan.Hex
import DispatchScan.Json.Parse

/-!
# Replies of a node

A reply is a JSON object with the protocol version, a request number and either a result or an
error, and nothing else. The result of a request for code is a string of digits with an optional
mark. The request number is not compared: a reply belongs to the request it answers.
-/

namespace DispatchScan.Node

/-- What a node has to say to a request for code. -/
inductive Reply where
  /-- The code at the address. -/
  | code (bytes : List UInt8)
  /-- The request was refused. -/
  | refused (code : Int) (message : String) (data : Option Json.Value)

namespace Reply

/-- The number of an error, which fits 64 bits with a sign. -/
def errorCode? : Json.Value → Option Int
  | .number (.natural n) => if n < Nat.pow 2 63 then some n else none
  | .number (.negative n) => some (-(n : Int))
  | _ => none

/-- Data that is present and not `null`. -/
def errorData (error : Json.Value) : Option Json.Value :=
  match error.get? "data" with
  | some .null => none
  | data => data

/-- Read the error of a refused request. -/
def ofError? (error : Json.Value) : Option Reply := do
  let code ← error.get? "code" >>= errorCode?
  let message ← error.get? "message" >>= Json.Value.text?
  return .refused code message (errorData error)

/-- Read the code in a result. -/
def ofResult? (result : Json.Value) : Option Reply := do
  let digits := Text.utf8 (Hex.withoutMark (← result.text?))
  match Hex.readExactly (digits.length / 2) digits with
  | .ok bytes => return .code bytes
  | .error _ => none

/-- Whether a value is a number without sign that fits 64 bits. -/
def isRequestNumber : Json.Value → Bool
  | .number (.natural _) => true
  | _ => false

/-- Whether the keys of an object are distinct and all known. -/
def knownOnce (known : List String) : List String → Bool
  | [] => true
  | key :: keys => known.contains key && !keys.contains key && knownOnce known keys

/-- Read a reply from its JSON value. -/
def ofJson? (v : Json.Value) : Option Reply :=
  match v with
  | .object members =>
    if knownOnce ["jsonrpc", "id", "result", "error"] (members.map Prod.fst)
        && (v.get? "jsonrpc" >>= Json.Value.text?) == some "2.0"
        && (v.get? "id").any isRequestNumber then
      match v.get? "result", v.get? "error" with
      | some result, none => ofResult? result
      | none, some error => ofError? error
      | _, _ => none
    else none
  | _ => none

/-- Read a reply from its text. -/
def parse? (text : String) : Option Reply :=
  match Json.parse text with
  | .ok v => ofJson? v
  | .error _ => none

end Reply

end DispatchScan.Node
