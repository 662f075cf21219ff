import DispatchScan.CommandLine.Arguments

/-!
# Spellings that are always accepted

A setting takes any text as its value when this is attached by an equals sign, and any text is an
operand behind two dashes. So every ABI can be handed to a listing, and every ABI and every bytecode
to a check, with either strategy and with or without a report.
-/

namespace DispatchScan.CommandLine

/-- The argument that gives a setting its value. -/
def Setting.argument (setting : Setting) (value : String) : String :=
  "--" ++ setting.name ++ "=" ++ value

namespace Progress

variable {p : Progress} {level : Level}

/-- Nothing is left to judge once a step was done. -/
theorem proceed_of_nothing (hpending : p.pending = .nothing) (act : Given → Except Usage Given) :
    p.proceed act = (act p.given).map fun given => { p with given, pending := .nothing } := by
  rw [proceed, settle, hpending]
  change (act p.given >>= _) = _
  cases act p.given <;> rfl

/-- Two dashes start a long option. -/
theorem step_of_dashes (hoptions : p.operandsOnly = false) {arg : String} {option : List Char}
    (harg : arg.toList = '-' :: '-' :: option) (hne : option ≠ []) :
    p.step level arg = p.long level arg option := by
  obtain ⟨c, cs, rfl⟩ := List.exists_cons_of_ne_nil hne
  rw [step, hoptions, harg]
  rfl

/-- An attached value is assigned to its setting. -/
theorem step_argument (hoptions : p.operandsOnly = false) {setting : Setting}
    (hsetting : level.setting? setting.name = some setting) (value : String) :
    p.step level (setting.argument value) = p.proceed fun given => given.assign setting value := by
  have hname : setting.name.toList.all (· != '=') = true := by
    cases setting <;> decide
  have hchars : (setting.argument value).toList
      = '-' :: '-' :: (setting.name.toList ++ '=' :: value.toList) := by
    simp [Setting.argument]
  have htake : (setting.name.toList ++ '=' :: value.toList).takeWhile (· != '=')
      = setting.name.toList := by
    rw [List.takeWhile_append_of_pos (List.all_eq_true.mp hname), List.takeWhile_cons]
    simp
  have hdrop : (setting.name.toList ++ '=' :: value.toList).drop (setting.name.toList.length + 1)
      = value.toList := by
    rw [List.drop_append]
    simp
  have hattached : setting.name.toList.length
      < (setting.name.toList ++ '=' :: value.toList).length := by
    simp
  rw [step_of_dashes hoptions hchars (by simp), long, htake, hdrop]
  simp only [String.ofList_toList, hsetting, hattached, if_true]

/-- Behind two dashes alone there are only operands. -/
theorem step_dashes (hoptions : p.operandsOnly = false) :
    p.step level "--" = .ok { p with operandsOnly := true } := by
  rw [step, hoptions]
  rfl

/-- Behind two dashes any text is an operand, if one is missing. -/
theorem step_operand (hoperands : p.operandsOnly = true) {c : Command}
    (hc : c.takesOperand = true) (hnone : p.given.operand = none) (arg : String) :
    p.step (.command c) arg =
      p.proceed fun given => .ok { given with operand := some arg } := by
  rw [step, hoperands, if_pos rfl, operand, hc, hnone]
  rfl

end Progress

/-- Reading behind a command goes on after each step. -/
theorem readCommand_cons {c : Command} {p q : Progress} {arg : String}
    (h : p.step (.command c) arg = .ok q) (args : List String) :
    readCommand c p (arg :: args) = readCommand c q args := by
  rw [readCommand, h]
  rfl

/-- Every command takes an ABI. -/
theorem setting?_abi (c : Command) :
    (Level.command c).setting? Setting.abi.name = some .abi := by
  cases c <;> rfl

/-- Behind a command an ABI may be given alone. -/
theorem readCommand_abi (c : Command) (abi : String) :
    readCommand c .start [Setting.abi.argument abi]
      = .ok { Given.empty with abi := some abi } := by
  have hstep : Progress.start.step (.command c) (Setting.abi.argument abi)
      = .ok ⟨{ Given.empty with abi := some abi }, .nothing, false⟩ := by
    rw [Progress.step_argument rfl (setting?_abi c), Progress.proceed_of_nothing rfl]
    rfl
  rw [readCommand_cons hstep]
  rfl

/-- Behind the name of a command its arguments are read. -/
theorem parse_command {name : String} {c : Command} (hname : Command.ofName? name = some c)
    (environment : Option String) (args : List String) :
    Invocation.parse environment (name :: args) = do
      let given ← readCommand c .start args
      let action ← c.action given environment
      return .of .empty given action := by
  have hhelp : name ≠ "help" := by
    rintro rfl
    exact absurd hname nofun
  have hstart : (Progress.start.operandsOnly || Progress.start.isAwaiting) = false := rfl
  rw [Invocation.parse, readTop, hstart, if_neg Bool.false_ne_true, if_neg hhelp]
  simp only [hname]
  rfl

/-- A listing of the signatures of any ABI is accepted. -/
theorem parse_signatureArguments (environment : Option String) (abi : String) :
    Invocation.parse environment ["signature", Setting.abi.argument abi]
      = .ok ⟨none, none, false, .signature abi⟩ := by
  rw [parse_command rfl, readCommand_abi]
  rfl

/-- A listing of the selectors of any ABI is accepted. -/
theorem parse_selectorArguments (environment : Option String) (abi : String) :
    Invocation.parse environment ["selector", Setting.abi.argument abi]
      = .ok ⟨none, none, false, .selector abi⟩ := by
  rw [parse_command rfl, readCommand_abi]
  rfl

/-- The last two arguments of a check. -/
theorem readCommand_operand {p : Progress} (hoptions : p.operandsOnly = false)
    (hpending : p.pending = .nothing) (hnone : p.given.operand = none) (bytecode : String) :
    readCommand .check p ["--", bytecode]
      = .ok { p.given with operand := some bytecode } := by
  rw [readCommand_cons (Progress.step_dashes hoptions)]
  obtain ⟨given, pending, operandsOnly⟩ := p
  obtain rfl : pending = .nothing := hpending
  have hstep : Progress.step (.command .check) ⟨given, .nothing, true⟩ bytecode
      = .ok ⟨{ given with operand := some bytecode }, .nothing, true⟩ := by
    have hgiven : given.operand = none := hnone
    rw [Progress.step_operand rfl rfl hgiven, Progress.proceed_of_nothing rfl]
    rfl
  rw [readCommand_cons hstep]
  rfl

/-- Arguments of a check that may hold any ABI and any bytecode. -/
def checkArguments (strategy abi bytecode : String) (report : Bool) : List String :=
  "check" :: Setting.scan.argument strategy :: Setting.abi.argument abi
    :: (if report then ["--report", "--", bytecode] else ["--", bytecode])

/-- A check of any bytecode against any ABI is accepted, and is a check of just these. -/
theorem parse_checkArguments {name : String} {strategy : Strategy}
    (hname : strategy? name = some strategy) (environment : Option String) (abi bytecode : String)
    (report : Bool) :
    Invocation.parse environment (checkArguments name abi bytecode report)
      = .ok ⟨none, some strategy, false, .check abi bytecode report⟩ := by
  have hscan : Progress.start.step (.command .check) (Setting.scan.argument name)
      = .ok ⟨{ Given.empty with scan := some strategy }, .nothing, false⟩ := by
    rw [Progress.step_argument rfl rfl, Progress.proceed_of_nothing rfl, Given.assign]
    simp only [hname]
    rfl
  have habi : Progress.step (.command .check)
      ⟨{ Given.empty with scan := some strategy }, .nothing, false⟩ (Setting.abi.argument abi)
      = .ok ⟨{ Given.empty with scan := some strategy, abi := some abi }, .nothing, false⟩ := by
    rw [Progress.step_argument rfl rfl, Progress.proceed_of_nothing rfl]
    rfl
  have hread : readCommand .check .start (Setting.scan.argument name :: Setting.abi.argument abi
        :: (if report then ["--report", "--", bytecode] else ["--", bytecode]))
      = .ok ⟨none, some strategy, some abi, none, if report then [.report] else [],
          some bytecode⟩ := by
    rw [readCommand_cons hscan, readCommand_cons habi]
    cases report with
    | false => exact readCommand_operand rfl rfl rfl bytecode
    | true =>
      rw [if_pos rfl, readCommand_cons rfl]
      exact readCommand_operand rfl rfl rfl bytecode
  rw [checkArguments, parse_command rfl, hread]
  cases report <;> rfl

end DispatchScan.CommandLine
