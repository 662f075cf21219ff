import DispatchScan.Declaration
import DispatchScan.Json.Parse
import DispatchScan.Json.Print

/-!
# ABIs

An ABI is the list of functions to look for. Its order is kept and repeated functions count each.
It is read from a JSON value: a single function, or an array of which constructors, events and
other entries that are no functions are dropped first. A text is read as JSON first; where it is
decoded as data of an ABI, the value is judged before anything that follows it in the text.
-/

namespace DispatchScan

/-- The functions to look for, in order. -/
structure Abi where
  /-- The declarations, repeated ones included. -/
  functions : List Declaration
  deriving DecidableEq, Repr

namespace Abi

/-- The ABI without functions. -/
def empty : Abi := ⟨[]⟩

/-- The number of declared functions. -/
def size (abi : Abi) : Nat := abi.functions.length

/-- Whether no function is declared. -/
def isEmpty (abi : Abi) : Bool := abi.functions.isEmpty

/-- The ABI of one function. -/
def singleton (d : Declaration) : Abi := ⟨[d]⟩

/-- The functions of one ABI followed by those of another. -/
def append (a b : Abi) : Abi := ⟨a.functions ++ b.functions⟩

instance : Append Abi := ⟨append⟩

/-- The same functions in opposite order. -/
def reverse (abi : Abi) : Abi := ⟨abi.functions.reverse⟩

/-- The signatures, in order. -/
def signatures (abi : Abi) : List String :=
  abi.functions.map Declaration.signature

/-- Whether an array entry counts as a function: it has no `type`, or the type `function`. -/
def isFunctionEntry (entry : Json.Value) : Bool :=
  match entry.get? "type" with
  | none => true
  | some type => type.text? == some "function"

/-- Read each entry as a function; the first fault wins. -/
def declarations : List Json.Value → Except SpecificationFault (List Declaration)
  | [] => .ok []
  | entry :: entries =>
    match Declaration.ofJson entry with
    | .error fault => .error fault
    | .ok d => (declarations entries).map (d :: ·)

/-- Read an ABI from a JSON value. A single object is a function whatever its `type` says. -/
def ofJson (v : Json.Value) : Except CheckError Abi :=
  match v with
  | .null => .error (.missing .abi)
  | .object _ => (Declaration.ofJson v).mapError CheckError.specification |>.map singleton
  | .array entries =>
    (declarations (entries.filter isFunctionEntry)).mapError CheckError.specification |>.map Abi.mk
  | _ => .error (.specification .notAnAbi)

/-- Read an ABI from a JSON text. -/
def parse (text : String) : Except CheckError Abi :=
  match Json.parse text with
  | .error fault => .error (.specification (.notJson fault))
  | .ok v => ofJson v

/-- The array of an ABI. -/
def toJson (abi : Abi) : Json.Value :=
  .array (abi.functions.map Declaration.toJson)

/-- The compact text of an ABI. -/
def render (abi : Abi) : String :=
  abi.toJson.render

end Abi

/-- Why a text is no data of the wanted type. -/
inductive DecodeError where
  /-- The text is no JSON. -/
  | malformed (fault : Json.Located)
  /-- Its value describes no such data. -/
  | content (error : CheckError)
  deriving DecidableEq, Repr

/-- The wording of a decoding error. -/
def DecodeError.message : DecodeError → String
  | .malformed fault => fault.message
  | .content error => error.message

/-- Decode a text: read its value, convert this, and only then look for the end of the text. -/
def decode {α : Type} (convert : Json.Value → Except CheckError α) (text : String) :
    Except DecodeError α :=
  let bytes := Text.utf8 text
  match Json.Reader.value Json.maxDepth bytes with
  | .error fault => .error (.malformed (fault.locate bytes))
  | .ok (v, rest) =>
    match convert v with
    | .error error => .error (.content error)
    | .ok x =>
      match Json.Reader.finish rest with
      | .error fault => .error (.malformed (fault.locate bytes))
      | .ok _ => .ok x

/-- Decode a declaration from its JSON text. -/
def Declaration.decode (text : String) : Except DecodeError Declaration :=
  DispatchScan.decode (fun v => (Declaration.ofJson v).mapError CheckError.specification) text

/-- Decode an ABI from its JSON text. -/
def Abi.decode (text : String) : Except DecodeError Abi :=
  DispatchScan.decode Abi.ofJson text

end DispatchScan
