import DispatchScan.Hex.Spelling
import DispatchScan.Proofs.Assessment

/-!
# The verdict on raw inputs

What the spelling of bytecode and the JSON value of an ABI come to, whoever asks and in whatever
order the two are looked at: either they are rejected, for any reason, or every function of the ABI
occurs in the bytecode, or some function does not.
-/

namespace DispatchScan

/-- What can be said of a contract and an ABI. -/
inductive Verdict where
  /-- The inputs make no sense. -/
  | rejected
  /-- Every function occurs. -/
  | satisfied
  /-- Some function does not occur. -/
  | unsatisfied
  deriving DecidableEq, Repr

namespace Verdict

/-- The verdict of an answer. -/
def ofBool : Bool → Verdict
  | true => satisfied
  | false => unsatisfied

/-- The verdict on a spelling of bytecode and the value of an ABI. -/
def of (spelling : String) (abi : Json.Value) (strategy : Strategy) : Verdict :=
  match Hex.normalize spelling, Abi.ofJson abi with
  | .ok bytecode, .ok abi =>
    if bytecode = "" then rejected
    else ofBool (abi.functions.all fun d => Dispatch.occurs bytecode d.selector strategy)
  | _, _ => rejected

variable {spelling : String} {v : Json.Value} {strategy : Strategy}

/-- A spelling of no byte string is rejected whatever the ABI. -/
theorem of_of_normalize_error {error : Hex.SpellingError}
    (h : Hex.normalize spelling = .error error) : of spelling v strategy = rejected := by
  rw [of, h]

/-- A value that is no ABI is rejected whatever the bytecode. -/
theorem of_of_ofJson_error {error : CheckError} (h : Abi.ofJson v = .error error) :
    of spelling v strategy = rejected := by
  rw [of, h]
  cases Hex.normalize spelling <;> rfl

/-- A spelling of no bytes is rejected whatever the ABI. -/
theorem of_of_empty (h : Hex.normalize spelling = .ok "") : of spelling v strategy = rejected := by
  rw [of, h]
  cases Abi.ofJson v <;> rfl

/-- Inputs that make sense are answered by the scan. -/
theorem of_of_ok {bytecode : String} {abi : Abi} (hcode : Hex.normalize spelling = .ok bytecode)
    (hne : bytecode ≠ "") (habi : Abi.ofJson v = .ok abi) :
    of spelling v strategy =
      ofBool (abi.functions.all fun d => Dispatch.occurs bytecode d.selector strategy) := by
  rw [of, hcode, habi]
  exact if_neg hne

end Verdict

end DispatchScan
