import TreeTypes.Error
import TreeTypes.Text.Quoted
import TreeTypes.Traced

/-!
# Events of a run

What a run reports while it works. An event is data; its level, its subject and its wording are
functions of it, so that a log can filter events before it words them.
-/

namespace TreeTypes

/-- How important an event is. -/
inductive Level where
  | error
  | warn
  | info
  | debug
  | trace
  deriving DecidableEq, Repr

namespace Level

/-- The name of a level in a log. -/
def name : Level → String
  | error => "ERROR"
  | warn => "WARN"
  | info => "INFO"
  | debug => "DEBUG"
  | trace => "TRACE"

/-- Every level, the most important first. -/
def all : List Level := [error, warn, info, debug, trace]

/-- The place of a level in that order. -/
def rank : Level → Nat
  | error => 1
  | warn => 2
  | info => 3
  | debug => 4
  | trace => 5

end Level

/-- The word for what happened to an output in an event. -/
def WriteStatus.eventName : WriteStatus → String
  | written => "Written"
  | unchanged => "Unchanged"

/-- Something that happened during a run. -/
inductive Event where
  | parsedFamily (family : String) (variants : Nat)
  | resolvedFamily (family : String) (policy : Policy) (dependencies : List String)
  | familyWithoutVariants (strategy : Strategy) (family : String)
  | loadedSchema (schema : Path) (families : List String)
  | renderedFamily (family : String) (variants : Nat) (strategy : Strategy) (policy : Policy)
  | wroteOutput (family : String) (output : Path) (status : WriteStatus)
  | staleOutput (family : String) (output : Path)
  | unrestoredOutput (unrestored : Unrestored)
  deriving DecidableEq, Repr

namespace Event

/-- How important an event is. -/
def level : Event → Level
  | parsedFamily .. | resolvedFamily .. | loadedSchema .. => .debug
  | renderedFamily .. | wroteOutput .. | staleOutput .. => .info
  | familyWithoutVariants .. | unrestoredOutput .. => .warn

/-- The part of the program that an event belongs to, as a log names it. -/
def subject : Event → String
  | parsedFamily .. => "astgen_codegen::parser"
  | resolvedFamily .. => "astgen_codegen::generators::resolver"
  | familyWithoutVariants .closedUnion _ => "astgen_codegen::generators::rust::closed_union"
  | familyWithoutVariants .openPolymorphic _ =>
    "astgen_codegen::generators::rust::open_polymorphic"
  | loadedSchema .. | renderedFamily .. | wroteOutput .. | staleOutput .. =>
    "astgen_codegen::driver"
  | unrestoredOutput .. => "astgen_codegen::utils"

/-- What happened. -/
def title : Event → String
  | parsedFamily .. => "parsed family"
  | resolvedFamily .. => "resolved family"
  | familyWithoutVariants .. => "family has no variants"
  | loadedSchema .. => "loaded schema"
  | renderedFamily .. => "rendered family"
  | wroteOutput .. => "output"
  | staleOutput .. => "output is stale"
  | unrestoredOutput .. => "could not restore output"

/-- What it happened to. -/
def fields : Event → List (String × String)
  | parsedFamily family variants =>
    [("family", Text.quoted family), ("variants", toString variants)]
  | resolvedFamily family policy dependencies =>
    [("family", family), ("policy", policy.name),
      ("dependencies", Text.quotedList dependencies)]
  | familyWithoutVariants _ family => [("family", family)]
  | loadedSchema schema families =>
    [("schema", schema.text), ("families", Text.quotedList families)]
  | renderedFamily family variants strategy policy =>
    [("family", family), ("variants", toString variants), ("strategy", strategy.name),
      ("policy", policy.name)]
  | wroteOutput family output status =>
    [("family", family), ("output", output.text), ("status", status.eventName)]
  | staleOutput family output => [("family", family), ("output", output.text)]
  | unrestoredOutput unrestored =>
    [("path", unrestored.path.text), ("error", unrestored.cause.message)]

/-- The name of the field that holds what happened. -/
def titleField : String := "message"

/-- The names of the fields, of which the title is one. -/
def fieldNames (event : Event) : List String :=
  titleField :: event.fields.map (·.1)

/-- The wording of an event. -/
def message (event : Event) : String :=
  event.title ++ String.join (event.fields.map fun (key, value) => " " ++ key ++ "=" ++ value)

/-- Whether an event is a warning. -/
def isWarning (event : Event) : Bool :=
  event.level == .warn

end Event

/-- The result of a part of a run, with the events on the way to it. -/
abbrev Run (α : Type) := Traced Event Error α

/-- The wordings of the warnings among the events of a run. -/
def Traced.warnings {α : Type} (run : Run α) : List String :=
  (run.events.filter (·.isWarning)).map (·.message)

end TreeTypes
