import DispatchScan.Files
import DispatchScan.Hex.Spelling

/-!
# Bytecode from users

Bytecode arrives as a spelling in an argument or in a file. Either way it is normalized to plain
digits, and a file gives exactly what its content gives.
-/

namespace DispatchScan.Bytecode

/-- Why bytecode cannot be loaded. -/
inductive LoadError where
  /-- The text spells no byte string. -/
  | spelling (error : Hex.SpellingError)
  /-- The file with the text cannot be read. -/
  | unreadable (path : String) (error : FileError)
  deriving DecidableEq, Repr

/-- The wording of a loading error. -/
def LoadError.message : LoadError → String
  | .spelling error => error.message
  | .unreadable path error => s!"could not read file '{path}': {error.message}"

/-- Load bytecode from its spelling. -/
def ofText (text : String) : Except LoadError String :=
  (Hex.normalize text).mapError LoadError.spelling

/-- Load bytecode from a file that holds its spelling. -/
def ofFile (read : ReadFile) (path : String) : Except LoadError String :=
  match readText read path with
  | .error error => .error (.unreadable path error)
  | .ok text => ofText text

end DispatchScan.Bytecode
