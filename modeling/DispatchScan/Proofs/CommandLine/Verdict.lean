import DispatchScan.Proofs.CommandLine.Inputs
import DispatchScan.Proofs.Deployment
import DispatchScan.Proofs.Verdict

/-!
# Verdicts from the command line

A run shows a verdict by its exit code and the last entry that it prints. A check shows the verdict
on the inputs that its arguments carry, with or without a report, and a check of an address shows
the verdict on the code that is found there.
-/

namespace DispatchScan

open Json

namespace CommandLine

/-- What a run leaves behind when its verdict is the given one and it lists something in front of
it. -/
def Outcome.Shows (outcome : Outcome) (listed : List String) : Verdict → Prop
  | .rejected => outcome.exitCode = 2 ∧ outcome.entries = []
  | .satisfied => outcome.exitCode = 0 ∧ outcome.entries = listed ++ ["true"]
  | .unsatisfied => outcome.exitCode = 1 ∧ outcome.entries = listed ++ ["false"]

/-- A failure shows that the inputs were rejected. -/
theorem shows_of_error (failure : Failure) (listed : List String) :
    (Outcome.of (.error failure)).Shows listed .rejected :=
  ⟨rfl, rfl⟩

/-- A run that ends with the entry of its answer shows this answer. -/
theorem shows_of_ok (listed : List String) (satisfied : Bool) :
    (Outcome.of (.ok ⟨listed ++ [verdictEntry satisfied], satisfied⟩)).Shows listed
      (.ofBool satisfied) := by
  cases satisfied with
  | true => exact ⟨rfl, rfl⟩
  | false => exact ⟨rfl, rfl⟩

variable {spelling bytecode : String} {v : Value} {strategy : Strategy} {abi : Abi}

/-- No check accepts bytecode of no bytes. -/
theorem check_empty (abi : Abi) (strategy : Strategy) (report : Bool) :
    check "" abi strategy report = .error (.missing .bytecode) := by
  cases report <;> rfl

/-- What a check lists in front of its answer: its findings, if a report is asked for. -/
def listing (bytecode : String) (abi : Abi) (strategy : Strategy) (report : Bool) : List String :=
  if report then (abi.functions.map (Assessment.finding bytecode strategy)).map findingEntry else []

/-- A check ends with the answer of the scan. -/
theorem check_of_ne (hne : bytecode ≠ "") (abi : Abi) (strategy : Strategy) (report : Bool) :
    check bytecode abi strategy report = .ok ⟨listing bytecode abi strategy report
        ++ [verdictEntry (abi.functions.all fun d => Dispatch.occurs bytecode d.selector strategy)],
      abi.functions.all fun d => Dispatch.occurs bytecode d.selector strategy⟩ := by
  cases report with
  | false =>
    rw [check, if_neg Bool.false_ne_true, Assessment.satisfies_of_ne hne]
    rfl
  | true =>
    rw [check, if_pos rfl, Assessment.report_of_ne hne, ← Assessment.all_found_map_finding]
    rfl

/-- A check of loaded inputs shows their verdict, and without a report nothing else. -/
theorem shows_check (hcode : Hex.normalize spelling = .ok bytecode) (habi : Abi.ofJson v = .ok abi)
    (strategy : Strategy) (report : Bool) :
    ∃ listed, (report = false → listed = []) ∧
      (Outcome.of ((check bytecode abi strategy report).mapError Failure.check)).Shows listed
        (.of spelling v strategy) := by
  refine ⟨listing bytecode abi strategy report, fun hreport => ?_, ?_⟩
  · rw [listing, hreport, if_neg Bool.false_ne_true]
  · by_cases hne : bytecode = ""
    · subst hne
      rw [check_empty, Verdict.of_of_empty hcode]
      exact shows_of_error _ _
    · rw [check_of_ne hne, Verdict.of_of_ok hcode hne habi]
      exact shows_of_ok _ _

/-- A check from the command line shows the verdict on the inputs that its arguments carry. -/
theorem shows_run_check {surroundings : Surroundings} {text abiArgument codeArgument : String}
    (htext : parse text = .ok v) (hspelling : spelling.toList.head? ≠ some '@')
    (habi : Carries surroundings.read text abiArgument)
    (hcode : Carries surroundings.read spelling codeArgument) (config : Config) (report : Bool) :
    ∃ listed, (report = false → listed = []) ∧
      (Outcome.of ((Action.check abiArgument codeArgument report).run surroundings config)).Shows
        listed (.of spelling v config.scan) := by
  rw [Action.run, loadAbi_of_carries habi htext, loadBytecode_of_carries hcode hspelling,
    Bytecode.ofText]
  -- The ABI is judged first, so its fault hides one of the bytecode.
  cases hvalue : Abi.ofJson v with
  | error error =>
    rw [Verdict.of_of_ofJson_error hvalue]
    exact ⟨[], fun _ => rfl, shows_of_error _ _⟩
  | ok abi =>
    cases hnormalize : Hex.normalize spelling with
    | error error =>
      rw [Verdict.of_of_normalize_error hnormalize]
      exact ⟨[], fun _ => rfl, shows_of_error _ _⟩
    | ok bytecode => exact shows_check hnormalize hvalue config.scan report

/-- A check of a deployed contract whose code is found is a check of this code without a list. -/
theorem checkDeployed_of_finds {network : Node.Network} {settings : NodeSettings}
    {addressText : String} {bytes : List UInt8}
    (hfinds : Node.Finds network settings addressText bytes) (abi : Abi) (strategy : Strategy) :
    checkDeployed network settings addressText abi strategy =
      (((Assessment.satisfies (Hex.encode bytes) abi strategy).mapError
        Deployment.AssessError.refused).mapError Failure.deployment).map
          fun satisfied => ⟨[verdictEntry satisfied], satisfied⟩ := by
  obtain ⟨hclient, hsends, haddress, hreply, hcode⟩ := hfinds
  have hfetch := Node.Client.fetch_of_reply hsends hreply hcode
  have hassess := Deployment.assess_of_ok haddress hfetch abi strategy
  rw [Deployment.assessCode_codeText] at hassess
  rw [checkDeployed, hclient]
  simp only [Except.mapError, bind, Except.bind, hassess]
  cases Assessment.satisfies (Hex.encode bytes) abi strategy <;> rfl

/-- The settings of the node for an address: an endpoint of its own goes before the configured
one. -/
def nodeSettings (config : Config) (endpoint : Option String) : NodeSettings :=
  { config.node with endpoint := endpoint.getD config.node.endpoint }

/-- A check of an address whose code is found shows the verdict on every spelling of this code. -/
theorem shows_run_address {surroundings : Surroundings} {text abiArgument addressText : String}
    {config : Config} {endpoint : Option String} {bytes : List UInt8} (htext : parse text = .ok v)
    (habi : Carries surroundings.read text abiArgument)
    (hnormalize : Hex.normalize spelling = .ok (Hex.encode bytes))
    (hfinds : Node.Finds surroundings.network (nodeSettings config endpoint) addressText bytes) :
    (Outcome.of ((Action.address abiArgument addressText endpoint).run surroundings config)).Shows []
      (.of spelling v config.scan) := by
  rw [Action.run, loadAbi_of_carries habi htext]
  cases hvalue : Abi.ofJson v with
  | error error =>
    rw [Verdict.of_of_ofJson_error hvalue]
    exact shows_of_error _ _
  | ok abi =>
    have hrun := checkDeployed_of_finds hfinds abi config.scan
    rw [nodeSettings] at hrun
    simp only [Except.mapError, bind, Except.bind, hrun]
    by_cases hne : Hex.encode bytes = ""
    · rw [hne] at hnormalize ⊢
      rw [Verdict.of_of_empty hnormalize]
      exact shows_of_error _ _
    · rw [Assessment.satisfies_of_ne hne, Verdict.of_of_ok hnormalize hne hvalue]
      exact shows_of_ok [] _

/-- Arguments that are accepted as an action under a configuration, and what they leave behind. -/
inductive Runs (surroundings : Surroundings) (config : Config) (action : Action) :
    Outcome → Prop where
  /-- The invocation that the arguments make is run. -/
  | intro {environment : Option String} {args : List String} {invocation : Invocation} :
    Invocation.parse environment args = .ok invocation → invocation.action = action →
    invocation.load surroundings.read = .ok config →
    Runs surroundings config action (Outcome.of (invocation.run surroundings))

/-- Accepted arguments leave behind what their action does under the configuration. -/
theorem Runs.outcome_eq {surroundings : Surroundings} {config : Config} {action : Action}
    {outcome : Outcome} (h : Runs surroundings config action outcome) :
    outcome = Outcome.of (action.run surroundings config) := by
  obtain ⟨-, rfl, hload⟩ := h
  rw [Invocation.run, hload]
  rfl

end CommandLine

end DispatchScan
