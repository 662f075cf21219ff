import DispatchScan.Proofs.CommandLine.Completion
import DispatchScan.Proofs.Hex.Spelling

/-!
# Lists from the command line

The two listings and the report load their ABI by themselves. What each prints is made of the
findings for the loaded functions, row by row, and an ABI that cannot be loaded leaves nothing to be
printed.
-/

namespace DispatchScan

open Json

/-- A spelling of bytes does not look like the name of a file. -/
theorem Hex.head?_ne_of_normalize {text plain : String} (h : normalize text = .ok plain) :
    text.toList.head? ≠ some '@' := by
  intro hhead
  obtain ⟨rest, hrest⟩ := List.head?_eq_some_iff.mp hhead
  have hsplit : Text.withoutBlanks text.toList = '@' :: Text.withoutBlanks rest := by
    rw [hrest]
    rfl
  have hunmarked : Unmarked ('@' :: Text.withoutBlanks rest) := by simp [Unmarked]
  have hleaves : Leaves (Text.withoutBlanks text.toList) ([] ++ '@' :: Text.withoutBlanks rest) :=
    ⟨[], by decide, hsplit, fun _ => hunmarked⟩
  have hrefused := normalize_of_hasFault (.badDigit hleaves nofun (by decide))
  exact absurd (h.symm.trans hrefused) nofun

namespace CommandLine

variable {surroundings : Surroundings} {config : Config} {abi : Abi}

/-- An action of which a step is refused leaves behind only a failure. -/
theorem outcome_of_refused {action : Action} (h : action.Refused surroundings config) :
    (Outcome.of (action.run surroundings config)).exitCode = 2 ∧
      (Outcome.of (action.run surroundings config)).entries = [] := by
  have hsettles := action.settles_run surroundings config
  generalize action.run surroundings config = result at hsettles
  cases hsettles with
  | failed => exact ⟨rfl, rfl⟩
  | completed hpasses =>
    obtain ⟨abi, hpasses⟩ := hpasses
    exact absurd h hpasses.not_refused

/-- The signatures of a loaded ABI are listed. -/
theorem run_signature {argument : String} (hload : loadAbi surroundings.read argument = .ok abi) :
    (Action.signature argument).run surroundings config
      = .ok (list Declaration.signature abi) := by
  rw [Action.run, hload]
  rfl

/-- The selectors of a loaded ABI are listed. -/
theorem run_selector {argument : String} (hload : loadAbi surroundings.read argument = .ok abi) :
    (Action.selector argument).run surroundings config = .ok (list selectorEntry abi) := by
  rw [Action.run, hload]
  rfl

/-- Loaded inputs are reported on. -/
theorem run_report {abiArgument codeArgument bytecode : String}
    (hload : loadAbi surroundings.read abiArgument = .ok abi)
    (hcode : loadBytecode surroundings.read codeArgument = .ok bytecode) (hne : bytecode ≠ "") :
    (Action.check abiArgument codeArgument true).run surroundings config
      = .ok ⟨listing bytecode abi config.scan true
          ++ [verdictEntry (abi.functions.all fun d =>
            Dispatch.occurs bytecode d.selector config.scan)],
        abi.functions.all fun d => Dispatch.occurs bytecode d.selector config.scan⟩ := by
  rw [Action.run, hload, hcode]
  simp only [bind, Except.bind, check_of_ne hne, Except.mapError]

/-- The listed signatures are those of the findings. -/
theorem entries_list_signature (abi : Abi) (bytecode : String) (strategy : Strategy) :
    (list Declaration.signature abi).entries
      = (abi.functions.map (Assessment.finding bytecode strategy)).map Finding.signature := by
  rw [list, List.map_map]
  rfl

/-- The listed selectors are those of the findings, each in front of its signature. -/
theorem entries_list_selector (abi : Abi) (bytecode : String) (strategy : Strategy) :
    (list selectorEntry abi).entries
      = (abi.functions.map (Assessment.finding bytecode strategy)).map fun row =>
          "0x" ++ row.selector ++ "  " ++ row.signature := by
  rw [list, List.map_map]
  rfl

end CommandLine

end DispatchScan
