import TreeTypes.Run.Event
import TreeTypes.Source.ClosedUnion
import TreeTypes.Source.OpenPolymorphic

/-!
# Generating the source of a family

A family is generated in three steps: the policy is checked against the strategy, every field is
resolved, and the resolved family is laid out. No text comes into being unless all fields are
resolved.
-/

namespace TreeTypes

namespace Source

/-- The import lines that the definitions of a family need. -/
def requiredImports (strategy : Strategy) (options : SourceOptions) (resolver : Resolver)
    (family : ResolvedFamily) : List String :=
  match strategy with
  | .closedUnion => ClosedUnion.requiredImports options resolver.policy resolver.handle family
  | .openPolymorphic => OpenPolymorphic.requiredImports options family

/-- The definitions of a family. -/
def definitions (strategy : Strategy) (options : SourceOptions) (resolver : Resolver)
    (family : ResolvedFamily) : List String :=
  match strategy with
  | .closedUnion => ClosedUnion.definitions options resolver.policy resolver.handle family
  | .openPolymorphic => OpenPolymorphic.definitions options family

/-- The lines of a resolved family. -/
def layout (strategy : Strategy) (options : SourceOptions) (resolver : Resolver)
    (preludeLines : List String) (family : ResolvedFamily) : List String :=
  header family.name strategy resolver.policy preludeLines
      (requiredImports strategy options resolver family) ++
    definitions strategy options resolver family

end Source

/-- How sources are generated. -/
structure Generator where
  strategy : Strategy
  options : SourceOptions := {}
  deriving DecidableEq, Repr

namespace Generator

/-- Check that the strategy can express a policy. -/
def checkPolicy (generator : Generator) (policy : Policy) : Except Error Unit :=
  if generator.strategy.supports policy then .ok ()
  else .error (.config (.unsupportedPolicy ⟨generator.strategy, policy⟩))

/-- Generate the source of a family. -/
def generate (generator : Generator) (resolver : Resolver) (preludeLines : List String)
    (family : Family) : Run String := do
  .ofExcept (generator.checkPolicy resolver.policy)
  let resolved ← .ofExcept ((resolver.resolveFamily family).mapError .unresolvedType)
  .log (.resolvedFamily family.name resolver.policy resolved.dependencies)
  if resolved.variants.isEmpty then
    .log (.familyWithoutVariants generator.strategy family.name)
  return Source.textOfLines
    (Source.layout generator.strategy generator.options resolver preludeLines resolved)

end Generator

end TreeTypes
