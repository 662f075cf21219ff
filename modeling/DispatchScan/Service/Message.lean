import DispatchScan.Json.Print

/-!
# Requests and answers

What the service takes in and gives back, apart from how it travels. An answer has a status, the
headers that belong to its content and to the sharing between origins, and a content: JSON, plain
text or nothing.
-/

namespace DispatchScan.Service

/-- A request. -/
structure Request where
  /-- The method, in its exact case. -/
  method : String
  /-- The path with its query. -/
  target : String
  /-- The headers. -/
  headers : List (String × String)
  /-- The bytes of the body, none when there is no body. -/
  body : List UInt8
  deriving DecidableEq, Repr

/-- The path of a request without query and fragment. -/
def Request.path (request : Request) : String :=
  String.ofList (request.target.toList.takeWhile fun c => c != '?' && c != '#')

/-- The value of a header. Names count in either case. -/
def Request.header? (request : Request) (name : String) : Option String :=
  (request.headers.find? fun (key, _) => key.map Char.toLower == name).map Prod.snd

/-- The statuses of answers. -/
inductive Status where
  /-- The request was served. -/
  | ok
  /-- The request cannot be understood. -/
  | badRequest
  /-- There is nothing at the path. -/
  | notFound
  /-- The method does not fit the path. -/
  | methodNotAllowed
  /-- The body is too large. -/
  | payloadTooLarge
  /-- The body is not declared as JSON. -/
  | unsupportedMediaType
  /-- The body is JSON of the wrong shape. -/
  | unprocessable
  deriving DecidableEq, Repr

/-- The number of a status. -/
def Status.code : Status → Nat
  | ok => 200
  | badRequest => 400
  | notFound => 404
  | methodNotAllowed => 405
  | payloadTooLarge => 413
  | unsupportedMediaType => 415
  | unprocessable => 422

/-- The content of an answer. -/
inductive Content where
  /-- No content at all. -/
  | nothing
  /-- A text. -/
  | text (s : String)
  /-- A JSON value. -/
  | json (v : Json.Value)

/-- The text that a content is sent as. -/
def Content.render : Content → String
  | nothing => ""
  | text s => s
  | json v => v.render

/-- The headers that describe a content. -/
def Content.headers : Content → List (String × String)
  | nothing => []
  | text _ => [("content-type", "text/plain; charset=utf-8")]
  | json _ => [("content-type", "application/json")]

/-- An answer. -/
structure Answer where
  /-- The status. -/
  status : Status
  /-- The headers. -/
  headers : List (String × String)
  /-- The content. -/
  content : Content

namespace Answer

/-- The answer with a content. -/
def of (status : Status) (content : Content) : Answer :=
  ⟨status, content.headers, content⟩

/-- The same answer with a further header. -/
def withHeader (name value : String) (answer : Answer) : Answer :=
  { answer with headers := answer.headers ++ [(name, value)] }

/-- The same answer without its content, which its headers still describe. -/
def headersOnly (answer : Answer) : Answer :=
  { answer with content := .nothing }

end Answer

end DispatchScan.Service
