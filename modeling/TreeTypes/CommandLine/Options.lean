import TreeTypes.Source.Options

/-!
# Options of the command line

Every option that a command may have, how it is spelled, whether it takes a value, and which values
it accepts. Which options a command has is said in `TreeTypes.CommandLine.Request`.
-/

namespace TreeTypes.CommandLine

/-- An option of some command. -/
inductive OptionName where
  | help
  | version
  | verbose
  | jsonLogs
  | config
  | schema
  | family
  | output
  | strategy
  | policy
  | handle
  | externType
  | preludeLine
  | modulePrefix
  | noDocs
  | toStdout
  deriving DecidableEq, Repr

namespace OptionName

/-- The spelling of an option behind two dashes. -/
def long : OptionName → String
  | help => "help"
  | version => "version"
  | verbose => "verbose"
  | jsonLogs => "json-logs"
  | config => "config"
  | schema => "schema"
  | family => "family"
  | output => "output"
  | strategy => "strategy"
  | policy => "policy"
  | handle => "handle"
  | externType => "extern-type"
  | preludeLine => "prelude"
  | modulePrefix => "module-prefix"
  | noDocs => "no-docs"
  | toStdout => "stdout"

/-- The letter of an option behind one dash. -/
def letter? : OptionName → Option Char
  | help => some 'h'
  | version => some 'V'
  | verbose => some 'v'
  | config => some 'c'
  | output => some 'o'
  | _ => none

/-- Whether an option takes a value. -/
def takesValue : OptionName → Bool
  | help | version | verbose | jsonLogs | noDocs | toStdout => false
  | _ => true

/-- Whether an option may be given more than once. -/
def isRepeatable : OptionName → Bool
  | verbose | externType | preludeLine => true
  | _ => false

/-- Whether an option accepts a value: a path is not empty, and a choice is one of its names. -/
def accepts (option : OptionName) (value : String) : Bool :=
  match option with
  | config | schema | output => !value.isEmpty
  | strategy => Strategy.all.any (·.name == value)
  | policy => Policy.all.any (·.name == value)
  | handle => SharedHandle.all.any (·.name == value)
  | _ => true

/-- What an option is for. -/
def purpose : OptionName → String
  | help => "Print this help"
  | version => "Print the version"
  | verbose => "Log more (-v, -vv, -vvv)"
  | jsonLogs => "Log as JSON lines"
  | config => "Configuration file (astgen.toml by default)"
  | schema => "Schema document"
  | family => "Family of the schema"
  | output => "Output file (named for the family by default)"
  | strategy => "closed-union or open-polymorphic"
  | policy => "shared, value or owned"
  | handle => "rc or arc"
  | externType => "Type defined outside the generated module (repeatable)"
  | preludeLine => "Line emitted after the banner (repeatable)"
  | modulePrefix => "Path below which the modules of the families lie"
  | noDocs => "Do not emit doc comments"
  | toStdout => "Print the generated source instead of writing files"

end OptionName

/-- Why arguments make no request. -/
inductive UsageError where
  | unknownOption (spelling : String)
  | missingValue (option : OptionName)
  | unexpectedValue (option : OptionName)
  | invalidValue (option : OptionName) (value : String)
  | repeatedOption (option : OptionName)
  | missingOption (option : OptionName)
  | conflict (option other : OptionName)
  | requires (option other : OptionName)
  | unexpectedWord (word : String)
  | unknownCommand (word : String)
  | missingCommand
  deriving DecidableEq, Repr

/-- The wording of the error. -/
def UsageError.message : UsageError → String
  | unknownOption spelling => "unexpected argument '" ++ spelling ++ "'"
  | missingValue option => "--" ++ option.long ++ " needs a value"
  | unexpectedValue option => "--" ++ option.long ++ " takes no value"
  | invalidValue option value => "invalid value '" ++ value ++ "' for --" ++ option.long
  | repeatedOption option => "--" ++ option.long ++ " is given more than once"
  | missingOption option => "--" ++ option.long ++ " is required"
  | conflict option other => "--" ++ option.long ++ " cannot be used with --" ++ other.long
  | requires option other => "--" ++ option.long ++ " needs --" ++ other.long
  | unexpectedWord word => "unexpected argument '" ++ word ++ "'"
  | unknownCommand word => "unknown command '" ++ word ++ "'"
  | missingCommand => "a command is required"

end TreeTypes.CommandLine
