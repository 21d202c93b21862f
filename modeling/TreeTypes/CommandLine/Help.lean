import TreeTypes.CommandLine.Request

/-!
# Name, version and help

The texts with which the program describes itself.
-/

namespace TreeTypes.CommandLine

/-- The name of the program. -/
def programName : String := "astgen"

/-- The version of the program. -/
def programVersion : String := "0.1.0"

/-- The line of an option in the help. -/
def optionLine (option : OptionName) : String :=
  let letter := match option.letter? with
    | some c => "-" ++ c.toString ++ ", "
    | none => "    "
  let value := if option.takesValue then " <VALUE>" else ""
  "  " ++ letter ++ "--" ++ option.long ++ value ++ "\n        " ++ option.purpose ++ "\n"

/-- The part of the help that is about one command. -/
def commandHelp (name : CommandName) : String :=
  "\n" ++ name.name ++ ": " ++ name.purpose ++ "\n" ++
    String.join (name.options.map optionLine)

/-- The help of the program. -/
def helpText : String :=
  "Usage: " ++ programName ++ " [OPTIONS] <COMMAND>\n\n" ++
    String.join (programOptions.map optionLine) ++
    String.join (CommandName.all.map commandHelp)

end TreeTypes.CommandLine
