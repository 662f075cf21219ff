import DispatchScan.CommandLine.Printing
import DispatchScan.Proofs.CommandLine.Verdict

/-!
# What a run prints, and when

A run that prints as it goes prints nothing before it is certain to complete. Main statement: it is
the run without effects, with the entries of its completion printed behind it, so that what is left
behind is all of a completion or only a failure.
-/

namespace DispatchScan.CommandLine

/-- A check is its evaluation, with the entries that are made of this. -/
theorem mapError_check_eq_bind (bytecode : String) (abi : Abi) (strategy : Strategy)
    (report : Bool) :
    (check bytecode abi strategy report).mapError Failure.check =
      (evaluate bytecode abi strategy report).mapError Failure.check >>= fun answer =>
        .ok ⟨answer.2.map findingEntry ++ [verdictEntry answer.1], answer.1⟩ := by
  cases report with
  | false =>
    rw [check, evaluate, if_neg Bool.false_ne_true, if_neg Bool.false_ne_true]
    cases Assessment.satisfies bytecode abi strategy <;> rfl
  | true =>
    rw [check, evaluate, if_pos rfl, if_pos rfl]
    cases Assessment.report bytecode abi strategy <;> rfl

section

variable {m : Type → Type} [Monad m] (print : String → m Unit)

/-- Print the entries of a completed run, and give its answer. -/
def printCompletion : Except Failure Completion → m (Except Failure Bool)
  | .ok completion => do
    completion.entries.forM print
    return .ok completion.satisfied
  | .error failure => return .error failure

variable [LawfulMonad m]

/-- A step that prints nothing may be taken before all printing. -/
theorem run_attempt_bind {α : Type} {next : α → ExceptT Failure m Bool}
    {complete : α → Except Failure Completion}
    (h : ∀ a, (next a).run = printCompletion print (complete a)) (result : Except Failure α) :
    (attempt result >>= next).run = printCompletion print (result >>= complete) := by
  rw [ExceptT.run_bind, attempt, ExceptT.run_mk, pure_bind]
  cases result with
  | ok a => exact h a
  | error failure => rfl

/-- Printing does not fail. -/
theorem run_printAll_bind (entries : List String) (next : ExceptT Failure m Bool) :
    (printAll print entries >>= fun _ => next).run = entries.forM print >>= fun _ => next.run := by
  rw [ExceptT.run_bind, printAll, ExceptT.run_lift, bind_map_left]

/-- What is printed at the end of a run is that of its completion. -/
theorem run_printAll_return (entries : List String) (satisfied : Bool) :
    (printAll print entries >>= fun _ => pure satisfied).run
      = printCompletion print (.ok ⟨entries, satisfied⟩) :=
  run_printAll_bind print entries (pure satisfied)

/-- Entries may be printed in two parts. -/
theorem run_printAll_printAll (front back : List String) (satisfied : Bool) :
    (printAll print front >>= fun _ => printAll print back >>= fun _ => pure satisfied).run
      = printCompletion print (.ok ⟨front ++ back, satisfied⟩) := by
  have happend : (front ++ back).forM print = front.forM print >>= fun _ => back.forM print :=
    List.forM_append
  rw [run_printAll_bind, run_printAll_bind, printCompletion, happend, bind_assoc]
  rfl

/-- An action is carried out before its entries are printed. -/
theorem Action.run_perform (surroundings : Surroundings) (config : Config) (action : Action) :
    (action.perform print surroundings config).run
      = printCompletion print (action.run surroundings config) := by
  cases action with
  | signature abi => exact run_attempt_bind print (fun abi => run_printAll_return print _ true) _
  | selector abi => exact run_attempt_bind print (fun abi => run_printAll_return print _ true) _
  | check abi bytecode report =>
    refine run_attempt_bind print (fun abi => run_attempt_bind print (fun bytecode => ?_) _) _
    rw [mapError_check_eq_bind]
    exact run_attempt_bind print (fun _ => run_printAll_printAll print _ _ _) _
  | address abi text endpoint =>
    refine run_attempt_bind print (fun abi => run_attempt_bind print (fun client => ?_) _) _
    exact run_attempt_bind print (fun satisfied => run_printAll_return print _ satisfied) _

/-- An invocation is run before its entries are printed. -/
theorem Invocation.run_perform (surroundings : Surroundings) (invocation : Invocation) :
    (invocation.perform print surroundings).run
      = printCompletion print (invocation.run surroundings) :=
  run_attempt_bind print (fun config => Action.run_perform print surroundings config _) _

end

/-- Printed entries are noted in order behind those before. -/
theorem run_forM_note (entries before : List String) :
    (entries.forM note).run before = ((), before ++ entries) := by
  induction entries generalizing before with
  | nil =>
    rw [List.append_nil]
    rfl
  | cons entry entries ih =>
    have hstep : ((entry :: entries).forM note).run before
        = (entries.forM note).run (before ++ [entry]) := rfl
    rw [hstep, ih, List.append_assoc, List.singleton_append]

/-- An invocation leaves behind what its run without effects gives. -/
theorem Invocation.leave_eq (surroundings : Surroundings) (invocation : Invocation) :
    invocation.leave surroundings = .of (invocation.run surroundings) := by
  rw [leave, run_perform]
  cases invocation.run surroundings with
  | error failure => rfl
  | ok completion =>
    have hnote := run_forM_note completion.entries []
    rw [List.nil_append] at hnote
    have hprint : (printCompletion note (.ok completion)).run []
        = (.ok completion.satisfied, completion.entries) := by
      rw [printCompletion, StateT.run_bind, hnote]
      rfl
    rw [hprint]
    rfl

end DispatchScan.CommandLine
