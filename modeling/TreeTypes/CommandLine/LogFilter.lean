import TreeTypes.Run.Event

/-!
# Log filters

A filter is a list of directives. A directive is about the subjects that start with its target and
lets the events at or above its level pass. It may ask for a field that the events must have. Of
several directives about an event the one with the longest target decides, and of those one that
asks for a field. How filters are written is said in `TreeTypes.CommandLine.FilterText`.
-/

namespace TreeTypes.CommandLine

/-- What a directive asks of a field: that it is there, or that it has a certain value. -/
structure FieldCondition where
  name : String
  value : Option String
  deriving DecidableEq, Repr

/-- A rule about the events of some subjects. -/
structure Directive where
  /-- What the subjects start with. -/
  target : Option String := none
  /-- The name of the span that the events lie in. -/
  span : Option String := none
  /-- What is asked of a field. -/
  field : Option FieldCondition := none
  /-- The least important level that passes, if any does. -/
  threshold : Option Level := some .trace
  deriving DecidableEq, Repr

/-- The rules by which events are logged. -/
structure LogFilter where
  directives : List Directive
  deriving DecidableEq, Repr

namespace Directive

/-- Whether the subject of an event starts with the target. -/
def targets (event : Event) (directive : Directive) : Bool :=
  match directive.target with
  | some target => target.toList.isPrefixOf event.subject.toList
  | none => true

/-- Whether an event has the field that a directive asks for. The values of fields are compared for
spans only. -/
def fieldAllows (event : Event) (directive : Directive) : Bool :=
  match directive.field with
  | some condition => condition.value.isNone && event.fieldNames.contains condition.name
  | none => true

/-- Whether a directive is about an event. Events lie in no span, so one that names a span is about
none. -/
def isAbout (event : Event) (directive : Directive) : Bool :=
  directive.targets event && directive.span.isNone && directive.fieldAllows event

/-- Whether a directive lets an event pass. -/
def admits (event : Event) (directive : Directive) : Bool :=
  match directive.threshold with
  | some level => event.level.rank ≤ level.rank
  | none => false

/-- The length of the target, where having one counts. -/
def targetLength (directive : Directive) : Nat :=
  match directive.target with
  | some target => target.utf8ByteSize + 1
  | none => 0

/-- The name of the field that a directive asks for, which is empty if it asks for none. -/
def fieldName (directive : Directive) : String :=
  match directive.field with
  | some condition => condition.name
  | none => ""

/-- The more specific of two directives about an event: the one with the longer target, or else with
the later field in the order of their names. Of equals it is the second. -/
def moreSpecific (a b : Directive) : Directive :=
  if b.targetLength < a.targetLength then a
  else if a.targetLength = b.targetLength ∧ b.fieldName < a.fieldName then a
  else b

end Directive

namespace LogFilter

/-- Whether an event is logged. -/
def enables (filter : LogFilter) (event : Event) : Bool :=
  match filter.directives.filter (·.isAbout event) with
  | [] => false
  | first :: rest => (rest.foldl Directive.moreSpecific first).admits event

/-- The subjects of the program and of the library that it runs. -/
def ownTargets : List String := ["astgen", "astgen_codegen"]

/-- The level that a number of `-v` flags asks for. -/
def levelOfVerbosity : Nat → Level
  | 0 => .warn
  | 1 => .info
  | 2 => .debug
  | _ => .trace

/-- The filter that a number of `-v` flags asks for. -/
def ofVerbosity (verbosity : Nat) : LogFilter :=
  ⟨ownTargets.map fun target =>
    { target := some target, threshold := some (levelOfVerbosity verbosity) }⟩

end LogFilter

end TreeTypes.CommandLine
