import TreeTypes.CommandLine.Failure
import TreeTypes.CommandLine.Request
import TreeTypes.Run.Generation

/-!
# Carrying out commands

A command finds its configuration, does its work on the files it is given access to, and either
answers or fails. Nothing is printed by a command that fails.
-/

namespace TreeTypes.CommandLine

/-- What a command that did not fail prints, and whether it found everything in order. -/
structure Answer where
  output : String
  inOrder : Bool := true
  deriving DecidableEq, Repr

/-- The configuration file that is used when none is named. -/
def defaultConfig : Path := ⟨"astgen.toml"⟩

/-- The result of a part of a command, with the events on the way to it. -/
abbrev Performed (α : Type) := Traced Event Failure α

/-- A run as a part of a command that is in the middle of a task. -/
def Performed.ofRun {α : Type} (task : String) (run : Run α) : Performed α :=
  ⟨run.events, run.result.mapError fun error => (Failure.ofError error).during task⟩

section

variable {m : Type → Type} [Monad m] [FileAccess m]

/-- Load a configuration file. -/
def loadConfig (path : Path) (environment : List (String × String)) :
    m (Except Failure RunConfig) := do
  let loaded ← RunConfig.load path environment
  return loaded.mapError fun error => (Failure.ofError error).during ("loading " ++ path.text)

/-- The configuration that a source stands for. -/
def ConfigSource.config (environment : List (String × String)) :
    ConfigSource → m (Except Failure RunConfig)
  | .file path => loadConfig path environment
  | .family schema target => return .ok { schema, targets := [target] }
  | .default => do
    if ← FileAccess.pathExists defaultConfig then loadConfig defaultConfig environment
    else
      return .error
        ⟨"no " ++ defaultConfig.text ++ " found; pass --config or --schema/--family", []⟩

/-- The configuration of a run: that of its source with the overrides applied, checked again. -/
def RunArguments.config (run : RunArguments) (environment : List (String × String)) :
    m (Except Failure RunConfig) := do
  match ← run.source.config environment with
  | .error failure => return .error failure
  | .ok config =>
    let config := run.overrides.apply config
    return match config.validate with
    | .error fault => .error (.ofError (.config fault))
    | .ok () => .ok config

/-- Continue with the configuration of a run. -/
def RunArguments.withConfig {α : Type} (run : RunArguments)
    (environment : List (String × String)) (next : RunConfig → m (Performed α)) :
    m (Performed α) := do
  match ← run.config environment with
  | .error failure => return .ofExcept (.error failure)
  | .ok config => next config

/-- The line that says what happened to an output. -/
def writtenLine (written : WrittenFamily) : String :=
  let verb := match written.status with
    | .written => "wrote"
    | .unchanged => "unchanged"
  Text.padded 9 verb ++ " " ++ written.output.text ++ " (" ++ written.family ++ ")\n"

/-- The line that says that an output is out of date. -/
def staleLine (stale : RenderedFamily) : String :=
  "stale " ++ stale.output.text ++ " (" ++ stale.family ++ ")\n"

/-- The lines that describe a family. -/
def familyLines (family : Family) : String :=
  family.name ++ ":\n" ++
    String.join (family.variants.map fun variant => "  " ++ variant.display ++ "\n")

/-- Generate the targets of a configuration. -/
def generateTargets (toStdout : Bool) (config : RunConfig) : m (Performed Answer) := do
  if toStdout then
    let rendering ← config.render
    return do
      let rendered ← .ofRun "rendering families" rendering
      return { output := String.join (rendered.map (·.contents)) }
  else
    let run ← config.run
    return do
      let written ← .ofRun "generating families" run
      return { output := String.join (written.map writtenLine) }

/-- Look for outputs that are out of date. -/
def checkTargets (config : RunConfig) : m (Performed Answer) := do
  let checking ← config.check
  return do
    let stale ← .ofRun "checking generated files" checking
    return { output := String.join (stale.map staleLine), inOrder := stale.isEmpty }

/-- The families of a grammar that are described. -/
def describedFamilies (grammar : Grammar) : Option String → Except Error (List Family)
  | some name => (grammar.family name).map ([·])
  | none => .ok grammar.families

/-- Describe the families of a schema, or one of them. -/
def describeSchema (path : Path) (name : Option String) : m (Performed Answer) := do
  match ← Schema.load path with
  | .error error => return .ofExcept (.error (.ofError (.schemaLoad error)))
  | .ok schema =>
    return do
      let grammar ← .ofRun ("parsing " ++ path.text) (Grammar.ofSchema schema)
      let families ← .ofExcept ((describedFamilies grammar name).mapError .ofError)
      return { output := String.join (families.map familyLines) }

/-- Carry out a command. -/
def Command.perform (environment : List (String × String)) : Command → m (Performed Answer)
  | .generate run toStdout => run.withConfig environment (generateTargets toStdout)
  | .check run => run.withConfig environment checkTargets
  | .describe schema family => describeSchema schema family

end

end TreeTypes.CommandLine
