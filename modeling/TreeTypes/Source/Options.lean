import TreeTypes.Resolution

/-!
# Layouts of the generated source

A strategy lays a family out either as one closed enumeration or as an open trait with one structure
per variant. Each strategy renders only the policies whose handles its layout can express.
-/

namespace TreeTypes

/-- How a family is laid out. -/
inductive Strategy where
  /-- One enumeration with a case per variant, constructors and a formatter. -/
  | closedUnion
  /-- One marker trait and a structure per variant. -/
  | openPolymorphic
  deriving DecidableEq, Repr, Inhabited

namespace Strategy

/-- The name of a strategy in configurations and reports. -/
def name : Strategy → String
  | closedUnion => "closed-union"
  | openPolymorphic => "open-polymorphic"

/-- Every strategy. -/
def all : List Strategy := [closedUnion, openPolymorphic]

/-- The policy of a configuration that names none. -/
def defaultPolicy : Strategy → Policy
  | closedUnion => .shared
  | openPolymorphic => .owned

/-- Whether the layout can express the handles of a policy. -/
def supports (strategy : Strategy) (policy : Policy) : Bool :=
  match strategy with
  | closedUnion => policy.usesSharedHandle
  | openPolymorphic => policy == .owned

@[simp] theorem supports_defaultPolicy (strategy : Strategy) :
    strategy.supports strategy.defaultPolicy = true := by
  cases strategy <;> rfl

end Strategy

/-- What may be chosen about the generated text. -/
structure SourceOptions where
  /-- Whether documentation comments are written. -/
  docs : Bool := true
  /-- Traits derived besides the one that the formatter needs. -/
  derives : List String := []
  /-- The path below which the modules of the families lie, if they import one another. -/
  modulePrefix : Option String := none
  deriving DecidableEq, Repr

/-- A policy that a strategy cannot express. -/
structure UnsupportedPolicy where
  strategy : Strategy
  policy : Policy
  deriving DecidableEq, Repr

/-- The wording of the error. -/
def UnsupportedPolicy.message (unsupported : UnsupportedPolicy) : String :=
  "the " ++ unsupported.strategy.name ++ " strategy cannot use the " ++ unsupported.policy.name ++
    " policy"

end TreeTypes
