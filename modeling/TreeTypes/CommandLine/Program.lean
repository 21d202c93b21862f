import TreeTypes.CommandLine.Commands
import TreeTypes.CommandLine.Help
import TreeTypes.CommandLine.Log

/-!
# The program

The program reads its arguments as a request and carries it out. What it logs stands before the
report of a failure.
-/

namespace TreeTypes.CommandLine

/-- How the program ended and what it wrote. -/
structure Outcome where
  exitCode : UInt8
  output : String := ""
  report : String := ""
  deriving DecidableEq, Repr

/-- The outcome of a command, with its log in front of what it reports. -/
def Outcome.ofPerformed (log : String) (performed : Performed Answer) : Outcome :=
  match performed.result with
  | .ok answer => ⟨if answer.inOrder then 0 else 1, answer.output, log⟩
  | .error failure => ⟨1, "", log ++ failure.report⟩

/-- Run the program. -/
def run {m : Type → Type} [Monad m] [FileAccess m] (arguments : List String)
    (environment : List (String × String)) : m Outcome := do
  match Request.ofArguments arguments with
  | .error error => return ⟨2, "", "error: " ++ error.message ++ "\n"⟩
  | .ok .help => return ⟨0, helpText, ""⟩
  | .ok .version => return ⟨0, programName ++ " " ++ programVersion ++ "\n", ""⟩
  | .ok (.command log command) =>
    let performed ← command.perform environment
    return .ofPerformed (logText log environment performed.events) performed

end TreeTypes.CommandLine
