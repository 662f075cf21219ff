import DispatchScan.Abi
import DispatchScan.Dispatch

/-!
# Assessing bytecode against an ABI

Bytecode satisfies an ABI when it holds a dispatch check for every function; more functions and
what the handlers do play no part. The verdict stops at the first miss, the report covers every
function. Bytecode is a text of lowercase digits without mark, and must not be empty; any bytecode
satisfies the empty ABI.
-/

namespace DispatchScan

/-- The outcome for one declared function. -/
structure Finding where
  /-- The signature of the function. -/
  signature : String
  /-- Its selector as eight digits. -/
  selector : String
  /-- Whether a dispatch check was found. -/
  found : Bool
  deriving DecidableEq, Repr

namespace Assessment

/-- Refuse empty bytecode. -/
def requireBytecode (bytecode : String) : Except CheckError Unit :=
  if bytecode.isEmpty then .error (.missing .bytecode) else .ok ()

/-- Whether the bytecode dispatches every function of the ABI. Without functions nothing is scanned. -/
def satisfies (bytecode : String) (abi : Abi) (strategy : Strategy) : Except CheckError Bool := do
  requireBytecode bytecode
  if abi.isEmpty then
    return true
  return abi.functions.all fun d => Dispatch.occurs bytecode d.selector strategy

/-- The verdict for an ABI given as a JSON value. The bytecode is looked at before the ABI. -/
def satisfiesJson (bytecode : String) (abi : Json.Value) (strategy : Strategy) :
    Except CheckError Bool := do
  requireBytecode bytecode
  let abi ← Abi.ofJson abi
  satisfies bytecode abi strategy

/-- The outcome for one function. -/
def finding (bytecode : String) (strategy : Strategy) (d : Declaration) : Finding :=
  ⟨d.signature, d.selector.text, Dispatch.occurs bytecode d.selector strategy⟩

/-- The outcome for each function of the ABI, in order. -/
def report (bytecode : String) (abi : Abi) (strategy : Strategy) :
    Except CheckError (List Finding) := do
  requireBytecode bytecode
  return abi.functions.map (finding bytecode strategy)

end Assessment

end DispatchScan
