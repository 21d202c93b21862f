import TreeTypes.Run.Loading
import TreeTypes.Source.Generate

/-!
# Runs

A run renders the targets of a configuration in order and then writes all outputs or none. Checking
renders as well and compares the outputs with what would be written. Rendering in memory, from
families that have all been read, is the task of `Grammar`.
-/

namespace TreeTypes

/-- A family with the text that its output is to hold. -/
structure RenderedFamily where
  family : String
  output : Path
  contents : String
  deriving DecidableEq, Repr

/-- What happened to the output of a family. -/
structure WrittenFamily where
  family : String
  output : Path
  status : WriteStatus
  deriving DecidableEq, Repr

/-- Read the entries of a family. -/
def RawFamily.read (raw : RawFamily) : Run Family := do
  let family ← .ofExcept ((Family.parse raw.name raw.entries).mapError .malformedVariant)
  .log (.parsedFamily family.name family.variants.length)
  return family

/-- Read the entries of families, in order. -/
def RawFamily.readAll : List RawFamily → Run (List Family)
  | [] => return []
  | raw :: rest => do
    let family ← raw.read
    let families ← readAll rest
    return family :: families

/-- The families of a schema, all of them read. -/
structure Grammar where
  families : List Family
  deriving DecidableEq, Repr

namespace Grammar

/-- Read every family of a schema. -/
def ofSchema (schema : Schema) : Run Grammar := do
  let families ← RawFamily.readAll schema.families
  return ⟨families⟩

/-- Read every family of a schema given as text. -/
def ofText (text : String) : Run Grammar := do
  let schema ← .ofExcept ((Schema.parse "<inline>" text).mapError .schemaLoad)
  ofSchema schema

/-- The names of the families, in order. -/
def familyNames (grammar : Grammar) : List String :=
  grammar.families.map (·.name)

/-- The first family of that name. -/
def family (grammar : Grammar) (name : String) : Except Error Family :=
  match grammar.families.find? (·.name == name) with
  | some family => .ok family
  | none => .error (.unknownFamily name)

/-- Generate the source of one family. -/
def generate (grammar : Grammar) (generator : Generator) (resolver : Resolver)
    (preludeLines : List String) (name : String) : Run String := do
  let family ← .ofExcept (grammar.family name)
  generator.generate resolver preludeLines family

end Grammar

namespace RunConfig

/-- How the sources of a run are generated. -/
def generator (config : RunConfig) : Generator := ⟨config.strategy, config.options⟩

/-- Render one target. -/
def renderTarget (config : RunConfig) (schema : Schema) (target : Target) :
    Run RenderedFamily := do
  let raw ← .ofExcept (match schema.family? target.name with
    | some raw => .ok raw
    | none => .error (.unknownFamily target.name))
  let family ← raw.read
  let contents ← config.generator.generate (config.resolver schema.familyNames)
    target.preludeLines family
  .log (.renderedFamily family.name family.variants.length config.strategy config.effectivePolicy)
  return ⟨target.name, target.output, contents⟩

/-- Render targets in order. -/
def renderTargets (config : RunConfig) (schema : Schema) :
    List Target → Run (List RenderedFamily)
  | [] => return []
  | target :: rest => do
    let first ← config.renderTarget schema target
    let others ← config.renderTargets schema rest
    return first :: others

/-- Render the targets of a configuration from a loaded schema. -/
def renderSchema (config : RunConfig) (schema : Schema) : Run (List RenderedFamily) := do
  .log (.loadedSchema config.schema schema.familyNames)
  config.renderTargets schema config.targets

variable {m : Type → Type} [Monad m] [FileAccess m]

/-- Render the targets of a configuration. Nothing is written. -/
def render (config : RunConfig) : m (Run (List RenderedFamily)) := do
  match config.validate with
  | .error fault => return .ofExcept (.error (.config fault))
  | .ok () =>
    match ← Schema.load config.schema with
    | .error error => return .ofExcept (.error (.schemaLoad error))
    | .ok schema => return config.renderSchema schema

/-- The outputs of rendered families. -/
def outputsOf (rendered : List RenderedFamily) : List Output :=
  rendered.map fun family => ⟨family.output, family.contents⟩

/-- What happened to the outputs of rendered families. -/
def writtenOf (rendered : List RenderedFamily) (statuses : List (Path × WriteStatus)) :
    List WrittenFamily :=
  (rendered.zip statuses).map fun (family, _, status) => ⟨family.family, family.output, status⟩

/-- The events and the result of writing rendered families. -/
def reportWritten (rendered : List RenderedFamily) (report : WriteReport) :
    Run (List WrittenFamily) :=
  match report.result with
  | .error failure =>
    ⟨report.unrestored.map .unrestoredOutput, .error (.write failure)⟩
  | .ok statuses =>
    let written := writtenOf rendered statuses
    ⟨written.map fun family => .wroteOutput family.family family.output family.status,
      .ok written⟩

/-- Render every target, then write all outputs or none. -/
def run (config : RunConfig) : m (Run (List WrittenFamily)) := do
  let rendering ← config.render
  match rendering.result with
  | .error error => return ⟨rendering.events, .error error⟩
  | .ok rendered =>
    let report ← Output.writeAll (outputsOf rendered)
    return (reportWritten rendered report).after rendering.events

/-- The rendered families whose outputs hold something else. -/
def staleAmong : List RenderedFamily → m (List RenderedFamily)
  | [] => return []
  | family :: rest => do
    let fresh ← Output.isUpToDate family.output family.contents
    let stale ← staleAmong rest
    return if fresh then stale else family :: stale

/-- The targets whose outputs a run would write. -/
def check (config : RunConfig) : m (Run (List RenderedFamily)) := do
  let rendering ← config.render
  match rendering.result with
  | .error error => return ⟨rendering.events, .error error⟩
  | .ok rendered =>
    let stale ← staleAmong rendered
    return ⟨rendering.events ++ stale.map (fun family => .staleOutput family.family family.output),
      .ok stale⟩

end RunConfig

end TreeTypes
