import DispatchScan.CommandLine.Program

/-!
# Printing while running

A run prints its entries one after the other as they come. Printing is an effect that is handed to
it, so that the program writes to the standard output and a reader of runs notes what was printed;
what is printed stays printed when a later step fails.
-/

namespace DispatchScan.CommandLine

/-- The answer to a check, with the findings to be printed: those of the report if one is asked for,
and otherwise none. -/
def evaluate (bytecode : String) (abi : Abi) (strategy : Strategy) (report : Bool) :
    Except CheckError (Bool × List Finding) :=
  if report then do
    let findings ← Assessment.report bytecode abi strategy
    return (findings.all Finding.found, findings)
  else do
    let satisfied ← Assessment.satisfies bytecode abi strategy
    return (satisfied, [])

section

variable {m : Type → Type} [Monad m]

/-- Go on with a result, or end with its failure. -/
def attempt {α : Type} (result : Except Failure α) : ExceptT Failure m α :=
  ExceptT.mk (pure result)

/-- Print entries one after the other. -/
def printAll (print : String → m Unit) (entries : List String) : ExceptT Failure m Unit :=
  ExceptT.lift (entries.forM print)

/-- Carry out an action under a configuration, with any effect that printing may have. -/
def Action.perform (print : String → m Unit) (surroundings : Surroundings) (config : Config) :
    Action → ExceptT Failure m Bool
  | .signature abi => do
    let abi ← attempt (loadAbi surroundings.read abi)
    printAll print (abi.functions.map Declaration.signature)
    return true
  | .selector abi => do
    let abi ← attempt (loadAbi surroundings.read abi)
    printAll print (abi.functions.map selectorEntry)
    return true
  | .check abi bytecode report => do
    let abi ← attempt (loadAbi surroundings.read abi)
    let bytecode ← attempt (loadBytecode surroundings.read bytecode)
    let (satisfied, findings) ←
      attempt ((evaluate bytecode abi config.scan report).mapError Failure.check)
    printAll print (findings.map findingEntry)
    printAll print [verdictEntry satisfied]
    return satisfied
  | .address abi text endpoint => do
    let abi ← attempt (loadAbi surroundings.read abi)
    let settings := { config.node with endpoint := endpoint.getD config.node.endpoint }
    let client ← attempt ((Node.Client.ofSettings settings).mapError Failure.node)
    let run := Deployment.assess (client.fetch surroundings.network 1) text abi config.scan
    let satisfied ← attempt (run.result.mapError Failure.deployment)
    printAll print [verdictEntry satisfied]
    return satisfied

/-- Run an invocation, with any effect that printing may have. -/
def Invocation.perform (print : String → m Unit) (surroundings : Surroundings)
    (invocation : Invocation) : ExceptT Failure m Bool := do
  let config ← attempt (invocation.load surroundings.read)
  invocation.action.perform print surroundings config

end

/-- Note an entry behind those that were printed before. -/
def note (entry : String) : StateM (List String) Unit :=
  modify (· ++ [entry])

/-- What a run leaves behind when its result comes after the given entries were printed. -/
def Outcome.after (entries : List String) : Except Failure Bool → Outcome
  | .ok satisfied => ⟨if satisfied then 0 else 1, entries, none⟩
  | .error failure => ⟨2, entries, some failure.message⟩

/-- What an invocation leaves behind, where each entry is noted when it is printed. -/
def Invocation.leave (surroundings : Surroundings) (invocation : Invocation) : Outcome :=
  let (result, entries) := (invocation.perform note surroundings).run.run []
  .after entries result

end DispatchScan.CommandLine
