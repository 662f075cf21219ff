import DispatchScan.CommandLine.Option

/-!
# Reading the arguments

The arguments name a command, its inputs and what overrides the configuration; every other list of
arguments is answered without running anything. They are read from left to right. A value that
stands apart from its setting is judged when the next option or operand is reached, or at the end,
so an unknown argument right behind it is reported first. An option may be given once on each level,
and the level of the command wins.
-/

namespace DispatchScan.CommandLine

/-- Why nothing is run. -/
inductive Usage where
  /-- The help text is asked for. -/
  | help
  /-- The version is asked for. -/
  | version
  /-- There are no arguments. -/
  | nothingGiven
  /-- There are options, but no command. -/
  | noCommand
  /-- The argument is no command. -/
  | unknownCommand (text : String)
  /-- The argument is neither an option nor wanted as an operand. -/
  | unknownArgument (text : String)
  /-- The value of a setting is missing or none of the possible ones. -/
  | badValue (setting : Setting)
  /-- A setting is given twice. -/
  | repeatedSetting (setting : Setting)
  /-- A switch is given twice. -/
  | repeatedSwitch (switch : Switch)
  /-- A switch is given a value. -/
  | unwantedValue (switch : Switch)
  /-- The ABI or the operand is missing. -/
  | missingArgument
  deriving DecidableEq, Repr

/-- What the options and operands of one level give. -/
structure Given where
  /-- The configuration file. -/
  config : Option String
  /-- The strategy. -/
  scan : Option Strategy
  /-- The ABI. -/
  abi : Option String
  /-- The endpoint of the node. -/
  endpoint : Option String
  /-- The switches, the last one first. -/
  switches : List Switch
  /-- The argument without option. -/
  operand : Option String
  deriving DecidableEq, Repr

namespace Given

/-- Nothing is given. -/
def empty : Given := ⟨none, none, none, none, [], none⟩

/-- Whether a setting is given. -/
def has (g : Given) : Setting → Bool
  | .config => g.config.isSome
  | .scan => g.scan.isSome
  | .abi => g.abi.isSome
  | .endpoint => g.endpoint.isSome

/-- Give a setting its value. A path must not be empty. -/
def assign (g : Given) (setting : Setting) (value : String) : Except Usage Given :=
  if g.has setting then .error (.repeatedSetting setting)
  else
    match setting with
    | .config =>
      if value.isEmpty then .error (.badValue .config) else .ok { g with config := some value }
    | .scan =>
      match strategy? value with
      | some strategy => .ok { g with scan := some strategy }
      | none => .error (.badValue .scan)
    | .abi => .ok { g with abi := some value }
    | .endpoint => .ok { g with endpoint := some value }

/-- Turn a switch on. The switches for help and version end the reading. -/
def turnOn (g : Given) (switch : Switch) : Except Usage Given :=
  match switch with
  | .help => .error .help
  | .version => .error .version
  | _ =>
    if g.switches.contains switch then .error (.repeatedSwitch switch)
    else .ok { g with switches := switch :: g.switches }

end Given

/-- A setting that is still to be judged. -/
inductive Pending where
  /-- There is none. -/
  | nothing
  /-- The setting waits for its value. -/
  | awaiting (setting : Setting)
  /-- The setting has its value. -/
  | ready (setting : Setting) (value : String)
  deriving DecidableEq, Repr

/-- How far a level has been read. -/
structure Progress where
  /-- What was given and judged. -/
  given : Given
  /-- What is still to be judged. -/
  pending : Pending
  /-- Whether all further arguments are operands. -/
  operandsOnly : Bool
  deriving DecidableEq, Repr

namespace Progress

/-- Nothing has been read. -/
def start : Progress := ⟨.empty, .nothing, false⟩

/-- Whether a setting waits for its value. -/
def isAwaiting (p : Progress) : Bool :=
  match p.pending with
  | .awaiting _ => true
  | _ => false

/-- Judge what is pending. -/
def settle (p : Progress) : Except Usage Given :=
  match p.pending with
  | .nothing => .ok p.given
  | .awaiting setting => .error (.badValue setting)
  | .ready setting value => p.given.assign setting value

/-- Judge what is pending, and go on with something done to what is given. -/
def proceed (p : Progress) (act : Given → Except Usage Given) : Except Usage Progress := do
  let given ← p.settle
  return { p with given := ← act given, pending := .nothing }

/-- Read a long option, without its dashes. -/
def long (p : Progress) (level : Level) (arg : String) (option : List Char) :
    Except Usage Progress :=
  let name := option.takeWhile (· != '=')
  let value := option.drop (name.length + 1)
  let attached := name.length < option.length
  let name := String.ofList name
  match level.setting? name with
  | some setting =>
    if attached then p.proceed fun given => given.assign setting (String.ofList value)
    else do
      let p ← p.proceed fun given => .ok given
      return { p with pending := .awaiting setting }
  | none =>
    match level.switch? name with
    | some switch =>
      if attached then .error (.unwantedValue switch)
      else p.proceed fun given => given.turnOn switch
    | none => .error (.unknownArgument arg)

/-- Read the letters of short options. -/
def letters (level : Level) (arg : String) : Progress → List Char → Except Usage Progress
  | p, [] => .ok p
  | p, c :: cs =>
    match level.letter? c with
    | some switch => do
      let p ← p.proceed fun given => given.turnOn switch
      letters level arg p cs
    | none => .error (.unknownArgument arg)

/-- Whether an argument is the name of a command, that for help included. -/
def isCommandName (arg : String) : Bool :=
  arg == "help" || (Command.ofName? arg).isSome

/-- Read an operand. In front of the command there are none. -/
def operand (p : Progress) (level : Level) (arg : String) : Except Usage Progress :=
  match level with
  | .top =>
    if p.operandsOnly && isCommandName arg then .error (.unknownArgument arg)
    else .error (.unknownCommand arg)
  | .command c =>
    if c.takesOperand && p.given.operand.isNone then
      p.proceed fun given => .ok { given with operand := some arg }
    else .error (.unknownArgument arg)

/-- Read an argument that is no command. -/
def step (level : Level) (p : Progress) (arg : String) : Except Usage Progress :=
  if p.operandsOnly then p.operand level arg
  else
    match arg.toList with
    | ['-', '-'] => .ok { p with operandsOnly := true }
    | '-' :: '-' :: option => p.long level arg option
    | '-' :: c :: cs => letters level arg p (c :: cs)
    | _ =>
      match p.pending with
      | .awaiting setting => .ok { p with pending := .ready setting arg }
      | _ => p.operand level arg

end Progress

/-- What a command is to do. -/
inductive Action where
  /-- Print the signatures of an ABI. -/
  | signature (abi : String)
  /-- Print the selectors of an ABI with their signatures. -/
  | selector (abi : String)
  /-- Check bytecode, with a line for each function if `report` is set. -/
  | check (abi bytecode : String) (report : Bool)
  /-- Check the contract at an address, asking the node at the endpoint if one is given. -/
  | address (abi address : String) (endpoint : Option String)
  deriving DecidableEq, Repr

/-- A well-formed command line. -/
structure Invocation where
  /-- The configuration file. -/
  config : Option String
  /-- The strategy that overrides the configuration. -/
  scan : Option Strategy
  /-- Whether to log more. -/
  verbose : Bool
  /-- What to do. -/
  action : Action
  deriving DecidableEq, Repr

/-- Make an action of what is given behind a command. -/
def Command.action (c : Command) (given : Given) (environment : Option String) :
    Except Usage Action :=
  match c, given.abi, given.operand with
  | .signature, some abi, _ => .ok (.signature abi)
  | .selector, some abi, _ => .ok (.selector abi)
  | .check, some abi, some operand => .ok (.check abi operand (given.switches.contains .report))
  | .address, some abi, some operand => .ok (.address abi operand (given.endpoint.or environment))
  | _, _, _ => .error .missingArgument

/-- Read the arguments behind a command. -/
def readCommand (c : Command) : Progress → List String → Except Usage Given
  | p, [] => p.settle
  | p, arg :: args => do
    let p ← p.step (.command c) arg
    readCommand c p args

/-- Join what is given in front of a command and behind it. -/
def Invocation.of (top given : Given) (action : Action) : Invocation where
  config := given.config.or top.config
  scan := given.scan.or top.scan
  verbose := given.switches.contains .verbose || top.switches.contains .verbose
  action := action

/-- What to say to arguments behind the command for help, which must name a command. -/
def helpFor : List String → Usage
  | [] => .help
  | [name] => if Progress.isCommandName name then .help else .unknownCommand name
  | name :: more :: _ => .unknownCommand (if Progress.isCommandName name then more else name)

/-- Read the arguments from the progress in front of the command. -/
def readTop (environment : Option String) : Progress → List String → Except Usage Invocation
  | p, [] => do
    let given ← p.settle
    throw (if given = .empty then .nothingGiven else .noCommand)
  | p, arg :: args =>
    if p.operandsOnly || p.isAwaiting then do
      let p ← p.step .top arg
      readTop environment p args
    else if arg = "help" then .error (helpFor args)
    else
      match Command.ofName? arg with
      | some c => do
        let given ← readCommand c .start args
        let action ← c.action given environment
        return .of (← p.settle) given action
      | none => do
        let p ← p.step .top arg
        readTop environment p args

/-- Read the arguments, where the environment may name the endpoint of a node. -/
def Invocation.parse (environment : Option String) (args : List String) : Except Usage Invocation :=
  readTop environment .start args

end DispatchScan.CommandLine
