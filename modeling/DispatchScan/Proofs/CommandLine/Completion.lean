import DispatchScan.Proofs.Assessment.Report
import DispatchScan.Proofs.CommandLine.Printing

/-!
# Completed and refused runs

A run either takes all of its steps or ends with the error of one of them. The steps that may be
refused are told without the order in which they are taken. Main statement: the exit code is 2
exactly when some step is refused, and then nothing was printed; every other run prints what its
action lists, and a check ends with its answer, with or without a report.
-/

namespace DispatchScan.CommandLine

/-- The argument of an action with the ABI. -/
def Action.abi : Action → String
  | .signature abi | .selector abi | .check abi _ _ | .address abi _ _ => abi

variable (surroundings : Surroundings) (config : Config)

/-- Some step of an action returns an error. A step counts when what it works on is there, whatever
becomes of the others. -/
inductive Action.Refused : Action → Prop where
  /-- The ABI cannot be loaded. -/
  | abi {action : Action} {failure : Failure} :
    loadAbi surroundings.read action.abi = .error failure → Refused action
  /-- The bytecode cannot be loaded. -/
  | bytecode {abi code : String} {report : Bool} {failure : Failure} :
    loadBytecode surroundings.read code = .error failure → Refused (.check abi code report)
  /-- The loaded inputs cannot be checked. -/
  | check {abiText codeText bytecode : String} {report : Bool} {abi : Abi} {error : CheckError} :
    loadAbi surroundings.read abiText = .ok abi →
    loadBytecode surroundings.read codeText = .ok bytecode →
    Assessment.satisfies bytecode abi config.scan = .error error →
    Refused (.check abiText codeText report)
  /-- No client can be made of the settings for the node. -/
  | node {abi text : String} {endpoint : Option String} {error : Node.SettingsError} :
    Node.Client.ofSettings (nodeSettings config endpoint) = .error error →
    Refused (.address abi text endpoint)
  /-- The text is no address. -/
  | address {abi text : String} {endpoint : Option String} {error : CheckError} :
    Address.parse text = .error error → Refused (.address abi text endpoint)
  /-- The code at the address cannot be fetched. -/
  | fetch {abi text : String} {endpoint : Option String} {client : Node.Client}
    {address : Address} {error : Node.FetchError} :
    Node.Client.ofSettings (nodeSettings config endpoint) = .ok client →
    Address.parse text = .ok address →
    client.fetch surroundings.network 1 address = .error error → Refused (.address abi text endpoint)
  /-- The fetched code cannot be checked. -/
  | deployed {abiText text code : String} {endpoint : Option String} {abi : Abi}
    {client : Node.Client} {address : Address} {error : CheckError} :
    loadAbi surroundings.read abiText = .ok abi →
    Node.Client.ofSettings (nodeSettings config endpoint) = .ok client →
    Address.parse text = .ok address →
    client.fetch surroundings.network 1 address = .ok code →
    Assessment.satisfies (Deployment.plain code) abi config.scan = .error error →
    Refused (.address abiText text endpoint)

/-- All steps of an action give their results, the ABI among them, and with them its completion. -/
inductive Action.Passes : Action → Abi → Completion → Prop where
  /-- Signatures are listed. -/
  | signature {text : String} {abi : Abi} : loadAbi surroundings.read text = .ok abi →
    Passes (.signature text) abi (list Declaration.signature abi)
  /-- Selectors are listed. -/
  | selector {text : String} {abi : Abi} : loadAbi surroundings.read text = .ok abi →
    Passes (.selector text) abi (list selectorEntry abi)
  /-- Loaded inputs are checked. -/
  | check {abiText codeText bytecode : String} {report : Bool} {abi : Abi} :
    loadAbi surroundings.read abiText = .ok abi →
    loadBytecode surroundings.read codeText = .ok bytecode → bytecode ≠ "" →
    Passes (.check abiText codeText report) abi
      ⟨listing bytecode abi config.scan report
          ++ [verdictEntry (abi.functions.all fun d =>
            Dispatch.occurs bytecode d.selector config.scan)],
        abi.functions.all fun d => Dispatch.occurs bytecode d.selector config.scan⟩
  /-- Fetched code is checked. -/
  | address {abiText text code : String} {endpoint : Option String} {abi : Abi}
    {client : Node.Client} {address : Address} {satisfied : Bool} :
    loadAbi surroundings.read abiText = .ok abi →
    Node.Client.ofSettings (nodeSettings config endpoint) = .ok client →
    Address.parse text = .ok address →
    client.fetch surroundings.network 1 address = .ok code →
    Assessment.satisfies (Deployment.plain code) abi config.scan = .ok satisfied →
    Passes (.address abiText text endpoint) abi ⟨[verdictEntry satisfied], satisfied⟩

variable {surroundings config}

/-- An action that takes all steps is refused by none. -/
theorem Action.Passes.not_refused {action : Action} {abi : Abi} {completion : Completion}
    (h : action.Passes surroundings config abi completion) :
    ¬action.Refused surroundings config := by
  intro hrefused
  cases h with
  | signature habi =>
    cases hrefused with
    | abi hfails => exact absurd (habi.symm.trans hfails) nofun
  | selector habi =>
    cases hrefused with
    | abi hfails => exact absurd (habi.symm.trans hfails) nofun
  | check habi hcode hne =>
    cases hrefused with
    | abi hfails => exact absurd (habi.symm.trans hfails) nofun
    | bytecode hfails => exact absurd (hcode.symm.trans hfails) nofun
    | check _ hcode' hfails =>
      obtain rfl := Except.ok.inj (hcode.symm.trans hcode')
      rw [Assessment.satisfies_of_ne hne] at hfails
      exact absurd hfails nofun
  | address habi hclient haddress hcode hsatisfied =>
    cases hrefused with
    | abi hfails => exact absurd (habi.symm.trans hfails) nofun
    | node hfails => exact absurd (hclient.symm.trans hfails) nofun
    | address hfails => exact absurd (haddress.symm.trans hfails) nofun
    | fetch hclient' haddress' hfails =>
      obtain rfl := Except.ok.inj (hclient.symm.trans hclient')
      obtain rfl := Except.ok.inj (haddress.symm.trans haddress')
      exact absurd (hcode.symm.trans hfails) nofun
    | deployed habi' hclient' haddress' hcode' hfails =>
      obtain rfl := Except.ok.inj (habi.symm.trans habi')
      obtain rfl := Except.ok.inj (hclient.symm.trans hclient')
      obtain rfl := Except.ok.inj (haddress.symm.trans haddress')
      obtain rfl := Except.ok.inj (hcode.symm.trans hcode')
      exact absurd (hsatisfied.symm.trans hfails) nofun

/-- A run ends with an error of a step that is refused, or with a completion of all steps. -/
inductive Settles (refused : Prop) (passes : Completion → Prop) :
    Except Failure Completion → Prop where
  /-- Some step is refused. -/
  | failed {failure : Failure} : refused → Settles refused passes (.error failure)
  /-- All steps are taken. -/
  | completed {completion : Completion} : passes completion → Settles refused passes (.ok completion)

variable {refused : Prop} {passes : Completion → Prop} {α ε : Type}

/-- A step that is not refused leaves the rest of the run to be settled. -/
theorem Settles.bind {result : Except Failure α} {next : α → Except Failure Completion}
    (hfails : ∀ failure, result = .error failure → refused)
    (hnext : ∀ a, result = .ok a → Settles refused passes (next a)) :
    Settles refused passes (result >>= next) := by
  cases result with
  | error failure => exact .failed (hfails failure rfl)
  | ok a => exact hnext a rfl

/-- The same for a step with errors of its own. -/
theorem Settles.bind_mapError {wrap : ε → Failure} {result : Except ε α}
    {next : α → Except Failure Completion} (hfails : ∀ error, result = .error error → refused)
    (hnext : ∀ a, result = .ok a → Settles refused passes (next a)) :
    Settles refused passes (result.mapError wrap >>= next) := by
  cases result with
  | error error => exact .failed (hfails error rfl)
  | ok a => exact hnext a rfl

/-- Every action is settled by its steps. -/
theorem Action.settles_run (surroundings : Surroundings) (config : Config) (action : Action) :
    Settles (action.Refused surroundings config)
      (fun completion => ∃ abi, action.Passes surroundings config abi completion)
      (action.run surroundings config) := by
  cases action with
  | signature text =>
    exact .bind (fun _ hfails => .abi hfails) fun abi habi => .completed ⟨abi, .signature habi⟩
  | selector text =>
    exact .bind (fun _ hfails => .abi hfails) fun abi habi => .completed ⟨abi, .selector habi⟩
  | check abiText codeText report =>
    refine .bind (fun _ hfails => .abi hfails) fun abi habi => ?_
    refine .bind (fun _ hfails => .bytecode hfails) fun bytecode hcode => ?_
    by_cases hne : bytecode = ""
    · subst hne
      rw [check_empty]
      exact .failed (.check habi hcode (Assessment.satisfies_empty abi config.scan))
    · rw [check_of_ne hne]
      exact .completed ⟨abi, .check habi hcode hne⟩
  | address abiText text endpoint =>
    refine .bind (fun _ hfails => .abi hfails) fun abi habi => ?_
    refine .bind_mapError (fun _ hfails => .node hfails) fun client hclient => ?_
    cases haddress : Address.parse text with
    | error error =>
      rw [Deployment.assess_of_refused haddress]
      exact .failed (.address haddress)
    | ok address =>
      cases hcode : client.fetch surroundings.network 1 address with
      | error error =>
        rw [Deployment.assess_of_source_error haddress hcode]
        exact .failed (.fetch hclient haddress hcode)
      | ok code =>
        rw [Deployment.assess_of_ok haddress hcode, Deployment.assessCode]
        cases hsatisfied : Assessment.satisfies (Deployment.plain code) abi config.scan with
        | error error => exact .failed (.deployed habi hclient haddress hcode hsatisfied)
        | ok satisfied =>
          exact .completed ⟨abi, .address habi hclient haddress hcode hsatisfied⟩

/-- Some step of an invocation returns an error. -/
inductive Invocation.Refused (surroundings : Surroundings) (invocation : Invocation) : Prop where
  /-- The configuration cannot be loaded. -/
  | config {error : Config.LoadError} :
    Config.load surroundings.read invocation.config = .error error → Refused surroundings invocation
  /-- A step of the action returns an error under the configuration. -/
  | action {config : Config} : invocation.load surroundings.read = .ok config →
    invocation.action.Refused surroundings config → Refused surroundings invocation

/-- The ABI of an invocation is loaded, and with it all steps of the action are taken. -/
inductive Invocation.Passes (surroundings : Surroundings) (invocation : Invocation) (abi : Abi)
    (completion : Completion) : Prop where
  /-- The configuration is loaded, and under it the action takes all steps. -/
  | intro {config : Config} : invocation.load surroundings.read = .ok config →
    invocation.action.Passes surroundings config abi completion →
    Passes surroundings invocation abi completion

/-- An invocation that takes all steps is refused by none. -/
theorem Invocation.Passes.not_refused {surroundings : Surroundings} {invocation : Invocation}
    {abi : Abi} {completion : Completion} (h : invocation.Passes surroundings abi completion) :
    ¬invocation.Refused surroundings := by
  obtain ⟨hload, hpasses⟩ := h
  rintro (hfails | ⟨hload', hrefused⟩)
  · rw [Invocation.load, hfails] at hload
    exact absurd hload nofun
  · obtain rfl := Except.ok.inj (hload.symm.trans hload')
    exact hpasses.not_refused hrefused

/-- Every invocation is settled by its steps. -/
theorem Invocation.settles_run (surroundings : Surroundings) (invocation : Invocation) :
    Settles (invocation.Refused surroundings)
      (fun completion => ∃ abi, invocation.Passes surroundings abi completion)
      (invocation.run surroundings) := by
  refine .bind (fun failure hload => ?_) fun config hload => ?_
  · cases hconfig : Config.load surroundings.read invocation.config with
    | error error => exact .config hconfig
    | ok config =>
      rw [Invocation.load, hconfig] at hload
      exact absurd hload nofun
  · have hsettles := invocation.action.settles_run surroundings config
    generalize invocation.action.run surroundings config = result at hsettles
    cases hsettles with
    | failed hrefused => exact .failed (.action hload hrefused)
    | completed hpasses =>
      obtain ⟨abi, hpasses⟩ := hpasses
      exact .completed ⟨abi, .intro hload hpasses⟩

/-- The marks of functions in a report. -/
def marks (bytecode : String) (strategy : Strategy) (ds : List Declaration) : List String :=
  ds.map fun d => if Dispatch.occurs bytecode d.selector strategy then "found" else "missing"

/-- There are two marks. -/
theorem eq_of_mem_marks {bytecode : String} {strategy : Strategy} {ds : List Declaration}
    {mark : String} (h : mark ∈ marks bytecode strategy ds) : mark = "found" ∨ mark = "missing" := by
  obtain ⟨d, -, rfl⟩ := List.mem_map.mp h
  exact ite_eq_or_eq _ _ _

/-- Every selector occurs exactly when nothing is marked as missing. -/
theorem all_occurs_iff_missing_notMem_marks (bytecode : String) (strategy : Strategy)
    (ds : List Declaration) :
    (ds.all fun d => Dispatch.occurs bytecode d.selector strategy) = true ↔
      "missing" ∉ marks bytecode strategy ds := by
  rw [List.all_eq_true, marks, List.mem_map, not_exists]
  refine forall_congr' fun d => ?_
  rw [not_and]
  refine imp_congr_right fun _ => ?_
  cases Dispatch.occurs bytecode d.selector strategy <;> decide

/-- The entry of a function in a report ends with its mark. -/
theorem map_findingEntry_map_finding (bytecode : String) (strategy : Strategy)
    (ds : List Declaration) :
    (ds.map (Assessment.finding bytecode strategy)).map findingEntry =
      List.zipWith (fun d mark => s!"{selectorEntry d}  {mark}") ds
        (marks bytecode strategy ds) := by
  rw [List.map_map, marks, List.zipWith_map_right, List.zipWith_self]
  rfl

/-- What a completed action has printed for the functions of its ABI, and its exit code. -/
inductive Outcome.Completes (outcome : Outcome) (abi : Abi) : Action → Prop where
  /-- The signature of each function is listed. -/
  | signature {text : String} : outcome.exitCode = 0 →
    outcome.entries = abi.functions.map Declaration.signature → Completes outcome abi (.signature text)
  /-- The selector of each function is listed. -/
  | selector {text : String} : outcome.exitCode = 0 →
    outcome.entries = abi.functions.map selectorEntry → Completes outcome abi (.selector text)
  /-- The answer is shown alone. -/
  | check {abiText codeText : String} {satisfied : Bool} :
    outcome.Shows [] (.ofBool satisfied) → Completes outcome abi (.check abiText codeText false)
  /-- The answer is shown behind an entry for each function with a mark, and is positive exactly when
  nothing is marked as missing. -/
  | report {abiText codeText : String} {satisfied : Bool} {marks : List String} :
    marks.length = abi.functions.length → (∀ mark ∈ marks, mark = "found" ∨ mark = "missing") →
    (satisfied = true ↔ "missing" ∉ marks) →
    outcome.Shows (List.zipWith (fun d mark => s!"{selectorEntry d}  {mark}") abi.functions marks)
      (.ofBool satisfied) → Completes outcome abi (.check abiText codeText true)
  /-- The answer is shown alone. -/
  | address {abiText text : String} {endpoint : Option String} {satisfied : Bool} :
    outcome.Shows [] (.ofBool satisfied) → Completes outcome abi (.address abiText text endpoint)

/-- The completion of an action that takes all steps leaves behind what it lists, and its answer. -/
theorem Action.Passes.completes {surroundings : Surroundings} {config : Config} {action : Action}
    {abi : Abi} {completion : Completion} (h : action.Passes surroundings config abi completion) :
    (Outcome.of (.ok completion)).Completes abi action := by
  cases h with
  | signature habi => exact .signature rfl rfl
  | selector habi => exact .selector rfl rfl
  | @check _ _ bytecode report _ habi hcode hne =>
    cases report with
    | false => exact .check (shows_of_ok [] _)
    | true =>
      have hlength : (marks bytecode config.scan abi.functions).length = abi.functions.length :=
        List.length_map _
      refine .report hlength (fun mark => eq_of_mem_marks)
        (all_occurs_iff_missing_notMem_marks bytecode config.scan abi.functions) ?_
      rw [← map_findingEntry_map_finding]
      exact shows_of_ok _ _
  | address habi hclient haddress hcode hsatisfied => exact .address (shows_of_ok [] _)

/-- With and without a report a check has the same exit code and the same last entry. -/
theorem outcome_check_report (bytecode : String) (abi : Abi) (strategy : Strategy) :
    let reported := Outcome.of ((check bytecode abi strategy true).mapError Failure.check)
    let plain := Outcome.of ((check bytecode abi strategy false).mapError Failure.check)
    plain.exitCode = reported.exitCode ∧ plain.entries.getLast? = reported.entries.getLast? := by
  by_cases hne : bytecode = ""
  · subst hne
    rw [check_empty, check_empty]
    exact ⟨rfl, rfl⟩
  · rw [check_of_ne hne, check_of_ne hne]
    refine ⟨rfl, ?_⟩
    simp only [Except.mapError, Outcome.of, List.getLast?_append, List.getLast?_singleton,
      Option.some_or]

/-- Without its report an invocation has the same exit code and the same last entry. -/
theorem Invocation.outcome_run_report (surroundings : Surroundings) {invocation : Invocation}
    {abi code : String} (haction : invocation.action = .check abi code true) :
    let reported := Outcome.of (invocation.run surroundings)
    let plain := Outcome.of
      ({ invocation with action := .check abi code false }.run surroundings)
    plain.exitCode = reported.exitCode ∧ plain.entries.getLast? = reported.entries.getLast? := by
  obtain ⟨path, scan, verbose, action⟩ := invocation
  obtain rfl : action = .check abi code true := haction
  -- Nothing but the last step looks at whether a report is asked for.
  have hload : Invocation.load surroundings.read ⟨path, scan, verbose, .check abi code false⟩
      = Invocation.load surroundings.read ⟨path, scan, verbose, .check abi code true⟩ := rfl
  rw [run, run, hload]
  cases Invocation.load surroundings.read ⟨path, scan, verbose, .check abi code true⟩ with
  | error failure => exact ⟨rfl, rfl⟩
  | ok config =>
    simp only [bind, Except.bind, Action.run]
    cases loadAbi surroundings.read abi with
    | error failure => exact ⟨rfl, rfl⟩
    | ok loaded =>
      cases loadBytecode surroundings.read code with
      | error failure => exact ⟨rfl, rfl⟩
      | ok bytecode => exact outcome_check_report bytecode loaded config.scan

/-- The ABI of an action that takes all steps is the one that its argument gives. -/
theorem Action.Passes.loadAbi_eq {surroundings : Surroundings} {config : Config} {action : Action}
    {abi : Abi} {completion : Completion} (h : action.Passes surroundings config abi completion) :
    loadAbi surroundings.read action.abi = .ok abi := by
  cases h with
  | signature habi => exact habi
  | selector habi => exact habi
  | check habi => exact habi
  | address habi => exact habi

/-- An invocation is refused and leaves behind only a failure, or it leaves behind all of a
completion. -/
theorem Invocation.leave_cases (surroundings : Surroundings) (invocation : Invocation) :
    (invocation.Refused surroundings ∧ (invocation.leave surroundings).exitCode = 2 ∧
      (invocation.leave surroundings).entries = []) ∨
    (¬invocation.Refused surroundings ∧ (invocation.leave surroundings).exitCode ≠ 2 ∧
      ∃ abi, loadAbi surroundings.read invocation.action.abi = .ok abi ∧
        (invocation.leave surroundings).Completes abi invocation.action) := by
  have hsettles := invocation.settles_run surroundings
  rw [leave_eq]
  generalize invocation.run surroundings = result at hsettles
  cases hsettles with
  | failed hrefused => exact .inl ⟨hrefused, rfl, rfl⟩
  | @completed completion hpasses =>
    obtain ⟨abi, hpasses⟩ := hpasses
    have hcode : (Outcome.of (.ok completion)).exitCode ≠ 2 := by
      change (if completion.satisfied = true then (0 : UInt32) else 1) ≠ 2
      cases completion.satisfied <;> decide
    refine .inr ⟨hpasses.not_refused, hcode, abi, ?_⟩
    obtain ⟨-, haction⟩ := hpasses
    exact ⟨haction.loadAbi_eq, haction.completes⟩

/-- Every invocation either ends with exit code 2, exactly when one of its steps is refused, and has
printed nothing; or the ABI was loaded, and all that the action lists was printed, for a check with
the answer as the last entry and in the exit code. Without its report a check has the same exit code
and the same last entry. -/
theorem leave_all_or_nothing (surroundings : Surroundings) (invocation : Invocation) :
    ((invocation.leave surroundings).exitCode = 2 ↔ invocation.Refused surroundings) ∧
    (invocation.Refused surroundings → (invocation.leave surroundings).entries = []) ∧
    (¬invocation.Refused surroundings →
      ∃ abi, loadAbi surroundings.read invocation.action.abi = .ok abi ∧
        (invocation.leave surroundings).Completes abi invocation.action) ∧
    ∀ abi code, invocation.action = .check abi code true →
      let plain := { invocation with action := .check abi code false }.leave surroundings
      plain.exitCode = (invocation.leave surroundings).exitCode ∧
        plain.entries.getLast? = (invocation.leave surroundings).entries.getLast? := by
  refine ⟨?_, ?_, ?_, fun abi code haction => ?_⟩
  · rcases invocation.leave_cases surroundings with ⟨hrefused, hcode, -⟩ | ⟨hnot, hcode, -⟩
    · exact iff_of_true hcode hrefused
    · exact iff_of_false hcode hnot
  · rcases invocation.leave_cases surroundings with ⟨-, -, hentries⟩ | ⟨hnot, -, -⟩
    · exact fun _ => hentries
    · exact fun hrefused => absurd hrefused hnot
  · rcases invocation.leave_cases surroundings with ⟨hrefused, -, -⟩ | ⟨-, -, hcompletes⟩
    · exact fun hnot => absurd hrefused hnot
    · exact fun _ => hcompletes
  · rw [Invocation.leave_eq, Invocation.leave_eq]
    exact Invocation.outcome_run_report surroundings haction

end DispatchScan.CommandLine
