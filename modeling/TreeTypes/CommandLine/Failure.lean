import TreeTypes.Error
import TreeTypes.Text.Padded

/-!
# Reports of failures

A command that fails reports a chain of messages, from what was being done to the innermost cause.
-/

namespace TreeTypes.CommandLine

/-- Why a command failed: what was being done, and the causes behind it, the nearest first. -/
structure Failure where
  message : String
  causes : List String := []
  deriving DecidableEq, Repr

namespace Failure

/-- The causes that an error has besides its own wording. -/
def causesOf : Error → List String
  | .write failure => [failure.cause.message]
  | _ => []

/-- The failure that an error is. -/
def ofError (error : Error) : Failure := ⟨error.message, causesOf error⟩

/-- A failure seen as the cause of a larger task failing. -/
def during (task : String) (failure : Failure) : Failure :=
  ⟨task, failure.message :: failure.causes⟩

/-- A cause with its number, if there are several. -/
def numberedCause (number : Nat) (cause : String) : String :=
  Text.padded 5 (toString number) ++ ": " ++ Text.indented 7 cause ++ "\n"

/-- The causes as a report lists them. -/
def causesReport : List String → String
  | [] => ""
  | [cause] => "\nCaused by:\n    " ++ Text.indented 4 cause ++ "\n"
  | causes =>
    "\nCaused by:\n" ++ String.join (causes.zipIdx.map fun (cause, n) => numberedCause n cause)

/-- The report of a failure. -/
def report (failure : Failure) : String :=
  "Error: " ++ failure.message ++ "\n" ++ causesReport failure.causes

end Failure

end TreeTypes.CommandLine
