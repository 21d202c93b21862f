import TreeTypes.CommandLine.FilterText
import TreeTypes.CommandLine.Request
import TreeTypes.Json.Writer
import TreeTypes.Text.Padded

/-!
# The log

The events that pass the filter are logged one per line, in plain words or as JSON. The environment
may hold a filter of its own, which then takes the place of the one that the options ask for.
-/

namespace TreeTypes.CommandLine

/-- An event as a line of the log. The subject is named from the second `-v` on. -/
def logLine (verbosity : Nat) (event : Event) : String :=
  Text.padded 5 event.level.name ++ " " ++
    (if 1 < verbosity then event.subject ++ ": " else "") ++ event.message ++ "\n"

/-- An event as an object on a line of the log. -/
def jsonLogLine (event : Event) : String :=
  Json.write (.object [
    ("level", .string event.level.name),
    ("fields", .object ((Event.titleField, .string event.title) ::
      event.fields.map fun (key, value) => (key, .string value))),
    ("target", .string event.subject)]) ++ "\n"

/-- The variable that holds a log filter. -/
def filterVariable : String := "RUST_LOG"

/-- The filter of the environment, or else the one that the options ask for. -/
def logFilter (log : LogOptions) (environment : List (String × String)) : LogFilter :=
  ((environment.lookup filterVariable).bind LogFilter.parse?).getD (.ofVerbosity log.verbosity)

/-- The log of some events. -/
def logText (log : LogOptions) (environment : List (String × String)) (events : List Event) :
    String :=
  let enabled := events.filter (logFilter log environment).enables
  String.join (enabled.map (if log.json then jsonLogLine else logLine log.verbosity))

end TreeTypes.CommandLine
