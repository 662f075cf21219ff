import DispatchScan.Json.Fault

/-!
# Inputs that cannot be checked

The reasons why a check is refused before any scanning happens. A negative verdict is not among
them. A faulty specification is reported together with the shape that an ABI should have.
-/

namespace DispatchScan

/-- What is wrong with the description of a function or of an ABI. -/
inductive SpecificationFault where
  /-- The entry of a function is no object. -/
  | notAnObject
  /-- The name is absent, empty or no text. -/
  | noName
  /-- The list of inputs is absent or no array. -/
  | noInputs (name : String)
  /-- An input, counted from zero, has no type. -/
  | noType (index : Nat) (name : String)
  /-- The description is neither an object nor an array. -/
  | notAnAbi
  /-- The text of the description is no JSON. -/
  | notJson (fault : Json.Located)
  deriving DecidableEq, Repr

/-- The wording of a fault. -/
def SpecificationFault.message : SpecificationFault → String
  | .notAnObject => "function specification must be an object"
  | .noName => "function name is missing"
  | .noInputs name => s!"function `{name}` has no inputs list"
  | .noType index name => s!"input {index} of `{name}` has no type"
  | .notAnAbi => "ABI must be a function object or an array of them"
  | .notJson fault => s!"ABI is not valid JSON: {fault.message}"

/-- An input that a check cannot do without. -/
inductive MissingInput where
  /-- No bytecode, or bytecode of no bytes. -/
  | bytecode
  /-- No ABI. -/
  | abi
  deriving DecidableEq, Repr

/-- The wording for a missing input. -/
def MissingInput.message : MissingInput → String
  | .bytecode => "cannot assess contract ABI without a bytecode"
  | .abi => "cannot assess contract ABI without an ABI, please provide one"

/-- Why a check is refused. -/
inductive CheckError where
  /-- A function or the whole ABI is described wrongly. -/
  | specification (fault : SpecificationFault)
  /-- An input is absent. -/
  | missing (input : MissingInput)
  /-- The text is no address. -/
  | address (text : String)
  deriving DecidableEq, Repr

/-- The shape that an ABI should have, as it is shown with every faulty specification. -/
def abiShape : String :=
  "\n".intercalate
    ["Please provide an ABI matching the following structure:",
     "[",
     "  \x7b",
     "    \"name\": \"fn1\",",
     "    \"inputs\": [\x7b \"name\": \"arg1\", \"type\": \"type1\" \x7d,...]",
     "  \x7d,",
     "  \x7b",
     "    \"name\": \"fn2\",",
     "    \"inputs\": [\x7b \"name\": \"arg1\", \"type\": \"type1\" \x7d,...]",
     "  \x7d,",
     "  ...",
     "]"]

/-- The wording of a refusal. -/
def CheckError.message : CheckError → String
  | .specification fault => s!"invalid function specification: {fault.message}\n{abiShape}"
  | .missing input => input.message
  | .address text => s!"cannot assess contract ABI with an invalid address: {text}"

end DispatchScan
