import DispatchScan.Config
import DispatchScan.Service.MediaType
import DispatchScan.Service.Message

/-!
# Request bodies

The JSON records that requests carry. A body is only read when it is declared as JSON and not too
large, and only as far as its first value; what follows is ignored. Reading goes through the body
once, so the first fault in text order decides whether the body counts as no JSON or as JSON of the
wrong shape.
-/

namespace DispatchScan.Service

/-- The body of a request for signatures. -/
structure SignatureQuery where
  /-- The ABI, `null` when it is left out. -/
  abi : Json.Value

/-- The body of a request for a check. -/
structure CheckQuery where
  /-- A spelling of the bytecode. -/
  bytecode : Option String
  /-- The ABI, `null` when it is left out. -/
  abi : Json.Value
  /-- The strategy, where the request asks for one. -/
  scan : Option Strategy

/-- Read the ABI of a record, which is a level deeper than the record. -/
def abiReader : Json.Reader Json.Value :=
  Json.Reader.value (Json.maxDepth - 1)

namespace SignatureQuery

/-- The fields of the record. -/
def fields : List (Json.Field SignatureQuery) :=
  [⟨"abi", true, fun q => return { q with abi := ← abiReader }⟩]

/-- Read the record. -/
def reader : Json.Reader SignatureQuery :=
  Json.Reader.record "SignatureRequest" fields ⟨.null⟩

end SignatureQuery

namespace CheckQuery

/-- The fields of the record. Written as an array it must state the strategy, if only as `null`. -/
def fields : List (Json.Field CheckQuery) :=
  [⟨"bytecode", true, fun q =>
      return { q with bytecode := ← Json.Reader.nullable Json.Reader.text }⟩,
   ⟨"abi", true, fun q => return { q with abi := ← abiReader }⟩,
   ⟨"scan", false, fun q => return { q with scan := ← Json.Reader.nullable Strategy.reader }⟩]

/-- Read the record. -/
def reader : Json.Reader CheckQuery :=
  Json.Reader.record "SatisfiesRequest" fields ⟨none, .null, none⟩

end CheckQuery

/-- The most bytes that a body may have. -/
def maxBodySize : Nat := 2097152

/-- Why a body is not accepted. -/
inductive BodyError where
  /-- It is not declared as JSON. -/
  | undeclared
  /-- It has more than `maxBodySize` bytes. -/
  | tooLarge
  /-- It is no JSON, or JSON of the wrong shape. -/
  | fault (located : Json.Located)
  deriving DecidableEq, Repr

/-- The wording of a body error. -/
def BodyError.message : BodyError → String
  | undeclared => "Expected request with `Content-Type: application/json`"
  | tooLarge => "Failed to buffer the request body: length limit exceeded"
  | fault located =>
    if located.cause.isShape then
      s!"Failed to deserialize the JSON body into the target type: {located.message}"
    else s!"Failed to parse the request body as JSON: {located.message}"

/-- The status for a body error. -/
def BodyError.status : BodyError → Status
  | undeclared => .unsupportedMediaType
  | tooLarge => .payloadTooLarge
  | fault located => if located.cause.isShape then .unprocessable else .badRequest

/-- Whether a request declares its body as JSON. -/
def Request.declaresJson (request : Request) : Bool :=
  (request.header? "content-type").any MediaType.isJson

/-- Read the body of a request. Its declaration and its size are judged before it is read. -/
def Request.decode {α : Type} (reader : Json.Reader α) (request : Request) : Except BodyError α :=
  if request.declaresJson then
    if request.body.length ≤ maxBodySize then
      (Json.run reader request.body).mapError BodyError.fault
    else .error .tooLarge
  else .error .undeclared

end DispatchScan.Service
