import TreeTypes.CommandLine.Scan
import TreeTypes.Run.Config

/-!
# Requests

What the arguments of the program ask for. A request cannot be inconsistent: arguments that
contradict one another, or leave out what others need, make a usage error instead.
-/

namespace TreeTypes.CommandLine

/-- What the flags of a run change in its configuration. -/
structure Overrides where
  strategy : Option Strategy := none
  policy : Option Policy := none
  handle : Option SharedHandle := none
  externTypes : List String := []
  modulePrefix : Option String := none
  noDocs : Bool := false
  deriving DecidableEq, Repr

/-- A configuration with overrides applied. -/
def Overrides.apply (overrides : Overrides) (config : RunConfig) : RunConfig :=
  { config with
    strategy := overrides.strategy.getD config.strategy
    policy := overrides.policy <|> config.policy
    handle := overrides.handle.getD config.handle
    externTypes := config.externTypes ++ overrides.externTypes
    options := { config.options with
      modulePrefix := overrides.modulePrefix <|> config.options.modulePrefix
      docs := config.options.docs && !overrides.noDocs } }

@[simp] theorem Overrides.apply_none (config : RunConfig) :
    ({} : Overrides).apply config = config := by
  simp [Overrides.apply]

/-- Where the configuration of a run comes from. -/
inductive ConfigSource where
  /-- The configuration file of the current directory. -/
  | default
  | file (path : Path)
  /-- One family of a schema, without a configuration file. -/
  | family (schema : Path) (target : Target)
  deriving DecidableEq, Repr

/-- The arguments of a command that runs a configuration. -/
structure RunArguments where
  source : ConfigSource
  overrides : Overrides
  deriving DecidableEq, Repr

/-- A command with its arguments. -/
inductive Command where
  | generate (run : RunArguments) (toStdout : Bool)
  | check (run : RunArguments)
  | describe (schema : Path) (family : Option String)
  deriving DecidableEq, Repr

/-- How much is logged, and in which form. -/
structure LogOptions where
  verbosity : Nat := 0
  json : Bool := false
  deriving DecidableEq, Repr

/-- What the program is asked for. -/
inductive Request where
  | help
  | version
  | command (log : LogOptions) (command : Command)
  deriving DecidableEq, Repr

/-- The options that are accepted before and behind the name of a command. -/
def sharedOptions : List OptionName := [.help, .verbose, .jsonLogs]

/-- The options before the name of a command. -/
def programOptions : List OptionName := .version :: sharedOptions

/-- The options of the commands that run a configuration. -/
def runOptions : List OptionName := [
  .config, .schema, .family, .output, .strategy, .policy, .handle, .externType, .preludeLine,
  .modulePrefix, .noDocs]

/-- The name of a command. -/
inductive CommandName where
  | generate
  | check
  | describe
  deriving DecidableEq, Repr

namespace CommandName

/-- The spelling of a command. -/
def name : CommandName → String
  | generate => "generate"
  | check => "check"
  | describe => "describe"

/-- Every command. -/
def all : List CommandName := [generate, check, describe]

/-- The options of a command besides the shared ones. -/
def options : CommandName → List OptionName
  | generate => runOptions ++ [.toStdout]
  | check => runOptions
  | describe => [.schema, .family]

/-- What a command does. -/
def purpose : CommandName → String
  | generate => "Generate and write the configured families"
  | check => "Exit with status 1 when a generated file is out of date"
  | describe => "List the variants parsed from a schema"

end CommandName

/-- The path of the output for a family when none is given. -/
def defaultOutput (family : String) : Path :=
  ⟨Identifier.moduleName family ++ ".rs"⟩

/-- The first of some options that is given. -/
def firstGiven (found : List Occurrence) (options : List OptionName) : Option OptionName :=
  options.find? (isGiven found)

/-- Where the configuration comes from. A schema comes with one family, what describes its target
needs the schema, and none of them goes with a configuration file. -/
def configSource (found : List Occurrence) : Except UsageError ConfigSource :=
  match valueOf? found .config, valueOf? found .schema, valueOf? found .family with
  | some file, _, _ =>
    match firstGiven found [.schema, .family, .output, .preludeLine] with
    | some other => .error (.conflict .config other)
    | none => .ok (.file ⟨file⟩)
  | none, some schema, some family =>
    let output := ((valueOf? found .output).map Path.mk).getD (defaultOutput family)
    .ok (.family ⟨schema⟩ ⟨family, output, valuesOf found .preludeLine⟩)
  | none, some _, none => .error (.requires .schema .family)
  | none, none, _ =>
    match firstGiven found [.family, .output, .preludeLine] with
    | some option => .error (.requires option .schema)
    | none => .ok .default

/-- The value of that name. -/
def choice? {α : Type} (all : List α) (name : α → String) (text : Option String) : Option α :=
  text.bind fun text => all.find? (name · == text)

/-- The overrides among the options. -/
def overrides (found : List Occurrence) : Overrides where
  strategy := choice? Strategy.all Strategy.name (valueOf? found .strategy)
  policy := choice? Policy.all Policy.name (valueOf? found .policy)
  handle := choice? SharedHandle.all SharedHandle.name (valueOf? found .handle)
  externTypes := valuesOf found .externType
  modulePrefix := valueOf? found .modulePrefix
  noDocs := isGiven found .noDocs

/-- The arguments of a run. -/
def runArguments (found : List Occurrence) : Except UsageError RunArguments := do
  return ⟨← configSource found, overrides found⟩

/-- The command that options make. -/
def CommandName.command (found : List Occurrence) : CommandName → Except UsageError Command
  | generate => do return .generate (← runArguments found) (isGiven found .toStdout)
  | check => do return .check (← runArguments found)
  | describe =>
    match valueOf? found .schema with
    | some schema => .ok (.describe ⟨schema⟩ (valueOf? found .family))
    | none => .error (.missingOption .schema)

/-- How much is logged. What stands behind the name of the command replaces what stands before. -/
def logOptions (before behind : List Occurrence) : LogOptions where
  verbosity := (valuesOf (if isGiven behind .verbose then behind else before) .verbose).length
  json := isGiven before .jsonLogs || isGiven behind .jsonLogs

namespace Request

/-- The request for a command with its arguments. -/
def ofCommand (before : List Occurrence) (name : CommandName) (arguments : List String) :
    Except Stop Request := do
  let scanned ← scan (name.options ++ sharedOptions) arguments
  match scanned.rest with
  | word :: _ => throw (.usage (.unexpectedWord word))
  | [] =>
    let made ← (name.command scanned.found).mapError .usage
    return .command (logOptions before scanned.found) made

/-- The word that asks for help in place of the name of a command. -/
def helpWord : String := "help"

/-- Whether there is help for a word. -/
def isHelpTopic (word : String) : Bool :=
  word = helpWord || CommandName.all.any (·.name == word)

/-- Why scanning stops behind the word for help, which at most one topic may follow. -/
def helpStop : List String → Stop
  | [] => .help
  | topic :: rest =>
    if isHelpTopic topic then
      match rest with
      | [] => .help
      | word :: _ => .usage (.unknownCommand word)
    else .usage (.unknownCommand topic)

/-- The request that arguments make, or why scanning them stopped. -/
def scanArguments (arguments : List String) : Except Stop Request := do
  let scanned ← scan programOptions arguments
  match scanned.rest with
  | [] => throw (.usage .missingCommand)
  | word :: rest =>
    match CommandName.all.find? (·.name == word) with
    | some name => ofCommand scanned.found name rest
    | none =>
      if word = helpWord then throw (helpStop rest) else throw (.usage (.unknownCommand word))

/-- The request that the arguments of the program make. -/
def ofArguments (arguments : List String) : Except UsageError Request :=
  match scanArguments arguments with
  | .ok request => .ok request
  | .error .help => .ok .help
  | .error .version => .ok .version
  | .error (.usage error) => .error error

end Request

end TreeTypes.CommandLine
