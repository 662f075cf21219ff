import DispatchScan.Address
import DispatchScan.Assessment
import DispatchScan.Text.Blank

/-!
# Deployed contracts

A contract that is named by its address is assessed by the code that a source gives for it. The
address is judged first, so a malformed one asks the source nothing; every other run asks it exactly
once. A run notes the calls as the source receives them. Code from a source loses the white space
around it, one mark and its case, and is assessed as it then stands, digits or not.
-/

namespace DispatchScan.Deployment

/-- Gives the code at an address, or an error of its own. -/
abbrev CodeSource (ε : Type) := Address → Except ε String

/-- Why a contract could not be assessed. -/
inductive AssessError (ε : Type) where
  /-- The check was refused. -/
  | refused (error : CheckError)
  /-- The source gave no code. -/
  | source (error : ε)
  deriving DecidableEq, Repr

/-- The wording of an error, given the wording for errors of the source. -/
def AssessError.message {ε : Type} (wording : ε → String) : AssessError ε → String
  | .refused error => error.message
  | .source error => s!"code provider failed: {wording error}"

/-- The outcome of a run. -/
structure Run (ε : Type) where
  /-- The addresses that the source was asked for, in order. -/
  calls : List Address
  /-- The verdict. -/
  result : Except (AssessError ε) Bool

/-- The plain form of fetched code. -/
def plain (code : String) : String :=
  String.ofList ((Hex.dropMark (Text.trimBlanks code.toList)).map Char.toLower)

/-- The verdict on fetched code. -/
def assessCode {ε : Type} (code : String) (abi : Abi) (strategy : Strategy) :
    Except (AssessError ε) Bool :=
  (Assessment.satisfies (plain code) abi strategy).mapError AssessError.refused

/-- Assess the contract at an address, with any effect that fetching its code may have. -/
def assessVia {ε : Type} {m : Type → Type} [Monad m] (fetch : Address → m (Except ε String))
    (address : String) (abi : Abi) (strategy : Strategy) : m (Except (AssessError ε) Bool) :=
  match Address.parse address with
  | .error error => return .error (.refused error)
  | .ok address => do
    match ← fetch address with
    | .error error => return .error (.source error)
    | .ok code => return assessCode code abi strategy

/-- Answer like the source, and note the address behind those asked for before. -/
def noting {ε : Type} (source : CodeSource ε) (address : Address) :
    StateM (List Address) (Except ε String) := do
  modify (· ++ [address])
  return source address

/-- Assess the contract at an address with a source whose calls are noted. -/
def assess {ε : Type} (source : CodeSource ε) (address : String) (abi : Abi) (strategy : Strategy) :
    Run ε :=
  let (result, calls) := (assessVia (noting source) address abi strategy).run []
  ⟨calls, result⟩

end DispatchScan.Deployment
