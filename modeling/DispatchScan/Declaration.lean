import DispatchScan.CheckError
import DispatchScan.Json.Value
import DispatchScan.Keccak
import DispatchScan.Selector

/-!
# Declared functions

A declaration is a name, which is never empty, and a list of parameters. Its signature joins the
name and the parameter types; parameter names are kept, but play no part in it. The selector is the
front of the signature's Keccak-256 digest. Declarations are read from JSON objects, whose faults
are looked for in the order name, inputs, types, and written as such.
-/

namespace DispatchScan

/-- One parameter of a function. -/
structure Param where
  /-- The type, such as `uint256` or `address[3]`. -/
  type : String
  /-- The name, if the declaration has one. -/
  name : Option String
  deriving DecidableEq, Repr

/-- A function that a contract may offer. -/
structure Declaration where
  /-- The name of the function. -/
  name : String
  /-- The parameters, in order. -/
  inputs : List Param
  /-- A function has a name. -/
  name_ne_empty : name ≠ ""
  deriving DecidableEq, Repr

namespace Declaration

/-- Declare a function with the given parameters. -/
def make (name : String) (inputs : List Param) : Except SpecificationFault Declaration :=
  if h : name = "" then .error .noName else .ok ⟨name, inputs, h⟩

/-- Declare a function with unnamed parameters of the given types. -/
def ofTypes (name : String) (types : List String) : Except SpecificationFault Declaration :=
  make name (types.map fun type => ⟨type, none⟩)

/-- The name with the parameter types in parentheses, joined by commas. -/
def signature (d : Declaration) : String :=
  let types := ",".intercalate (d.inputs.map Param.type)
  s!"{d.name}({types})"

/-- The front of the digest of the signature. -/
def selector (d : Declaration) : Selector :=
  .ofBytes (Keccak.hash (Text.utf8 d.signature))

/-- Read one input. Any value without a text as its `type` is refused; its name is kept if it is a
text. -/
def paramOfJson? (v : Json.Value) : Option Param := do
  let type ← v.get? "type" >>= Json.Value.text?
  return ⟨type, v.get? "name" >>= Json.Value.text?⟩

/-- Read the inputs of the named function, of which the first is number `index`. -/
def paramsOfJson (name : String) : Nat → List Json.Value → Except SpecificationFault (List Param)
  | _, [] => .ok []
  | index, v :: vs =>
    match paramOfJson? v with
    | none => .error (.noType index name)
    | some param => (paramsOfJson name (index + 1) vs).map (param :: ·)

/-- Read a declaration from an object with a `name` and `inputs`. Other keys do not matter. -/
def ofJson (v : Json.Value) : Except SpecificationFault Declaration :=
  match v with
  | .object _ =>
    match v.get? "name" >>= Json.Value.text? with
    | none => .error .noName
    | some name =>
      if name = "" then .error .noName
      else
        match v.get? "inputs" >>= Json.Value.elements? with
        | none => .error (.noInputs name)
        | some inputs =>
          match paramsOfJson name 0 inputs with
          | .error fault => .error fault
          | .ok params => make name params
  | _ => .error .notAnObject

/-- The object of a parameter. An absent name has no member. -/
def paramToJson (param : Param) : Json.Value :=
  match param.name with
  | none => .object [("type", .string param.type)]
  | some name => .object [("type", .string param.type), ("name", .string name)]

/-- The object of a declaration. -/
def toJson (d : Declaration) : Json.Value :=
  .object [("name", .string d.name), ("inputs", .array (d.inputs.map paramToJson))]

end Declaration

end DispatchScan
