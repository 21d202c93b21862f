import TreeTypes.Path
import TreeTypes.Source.Options

/-!
# Run configurations

A run reads one schema and generates some of its families, each into an output of its own. A
configuration is valid when it has a target, no target is unnamed, no two outputs are the same path
and the strategy can express the policy.
-/

namespace TreeTypes

/-- One family to generate and the output that receives it. -/
structure Target where
  name : String
  output : Path
  /-- Lines that are written behind the banner. -/
  preludeLines : List String := []
  deriving DecidableEq, Repr

/-- Everything that a run depends on besides the files. -/
structure RunConfig where
  schema : Path
  strategy : Strategy := .closedUnion
  /-- The policy, if it differs from that of the strategy. -/
  policy : Option Policy := none
  handle : SharedHandle := .rc
  externTypes : List String := []
  options : SourceOptions := {}
  targets : List Target := []
  deriving DecidableEq, Repr

/-- Why a configuration is not valid. -/
inductive ConfigFault where
  | noTargets
  | unnamedTarget
  | sharedOutput (output : Path)
  | unsupportedPolicy (unsupported : UnsupportedPolicy)
  deriving DecidableEq, Repr

/-- The wording of a fault. -/
def ConfigFault.message : ConfigFault → String
  | noTargets => "no families requested"
  | unnamedTarget => "family target with an empty name"
  | sharedOutput output => "output " ++ output.text ++ " is used by more than one family"
  | unsupportedPolicy unsupported => unsupported.message

namespace RunConfig

/-- The policy of a run. -/
def effectivePolicy (config : RunConfig) : Policy :=
  config.policy.getD config.strategy.defaultPolicy

/-- Make the schema and the outputs relative to a directory, unless they are absolute. -/
def resolvePaths (config : RunConfig) (base : Path) : RunConfig :=
  { config with
    schema := base.join config.schema
    targets := config.targets.map fun target => { target with output := base.join target.output } }

/-- Check targets in order. `seen` holds the outputs of those before them. -/
def checkTargets (seen : List Path) : List Target → Except ConfigFault Unit
  | [] => .ok ()
  | target :: rest =>
    if (Text.trim target.name.toList).isEmpty then .error .unnamedTarget
    else if seen.any fun output => decide (output.Same target.output) then
      .error (.sharedOutput target.output)
    else checkTargets (target.output :: seen) rest

/-- Check that a configuration is valid. -/
def validate (config : RunConfig) : Except ConfigFault Unit := do
  if config.targets.isEmpty then throw .noTargets
  checkTargets [] config.targets
  if !config.strategy.supports config.effectivePolicy then
    throw (.unsupportedPolicy ⟨config.strategy, config.effectivePolicy⟩)

/-- The resolver of a run over the families of a schema. -/
def resolver (config : RunConfig) (families : List String) : Resolver where
  policy := config.effectivePolicy
  handle := config.handle
  families := families
  externTypes := config.externTypes

end RunConfig

end TreeTypes
