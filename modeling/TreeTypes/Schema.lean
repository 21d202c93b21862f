import TreeTypes.Files.Access
import TreeTypes.Json.Reader

/-!
# Schema documents

A schema document lists the families of a grammar with their unread entries. It is written as one
JSON object whose keys are the names of the families and whose values are lists of strings; the
order of the keys is the order of the families.
-/

namespace TreeTypes

/-- A family whose entries have not been read. -/
structure RawFamily where
  name : String
  entries : List String
  deriving DecidableEq, Repr

/-- The families of a grammar, in the order of the document. -/
structure Schema where
  families : List RawFamily := []
  deriving DecidableEq, Repr

/-- What is wrong with a schema document. -/
inductive SchemaFault where
  | unreadable (cause : FileError)
  | malformed (fault : Json.PlacedFault)
  | notObject
  | notArray (family : String)
  | nonStringEntry (family : String)
  deriving DecidableEq, Repr

/-- The wording of a fault. -/
def SchemaFault.message : SchemaFault → String
  | unreadable cause => cause.message
  | malformed fault => fault.message
  | notObject => "top level must be an object mapping family names to variant lists"
  | notArray family => "family '" ++ family ++ "' must be an array"
  | nonStringEntry family => "family '" ++ family ++ "' contains a non-string entry"

/-- A schema document that could not be loaded, with a label that says where it came from. -/
structure SchemaError where
  origin : String
  fault : SchemaFault
  deriving DecidableEq, Repr

/-- The wording of the error. -/
def SchemaError.message (error : SchemaError) : String :=
  "failed to load schema " ++ error.origin ++ ": " ++ error.fault.message

namespace Schema

/-- The names of the families, in order. -/
def familyNames (schema : Schema) : List String :=
  schema.families.map (·.name)

/-- The first family of that name. -/
def family? (schema : Schema) (name : String) : Option RawFamily :=
  schema.families.find? (·.name == name)

/-- Whether there are no families. -/
def isEmpty (schema : Schema) : Bool :=
  schema.families.isEmpty

/-- Add a family behind the others. -/
def push (schema : Schema) (name : String) (entries : List String) : Schema :=
  ⟨schema.families ++ [⟨name, entries⟩]⟩

/-- The entries of a family. -/
def entriesOf (family : String) : List Json → Except SchemaFault (List String)
  | [] => .ok []
  | .string entry :: rest => (entriesOf family rest).map (entry :: ·)
  | _ :: _ => .error (.nonStringEntry family)

/-- The families of an object. -/
def familiesOf : List (String × Json) → Except SchemaFault (List RawFamily)
  | [] => .ok []
  | (name, .array elements) :: rest => do
    let entries ← entriesOf name elements
    let families ← familiesOf rest
    return ⟨name, entries⟩ :: families
  | (name, _) :: _ => .error (.notArray name)

/-- The document that a JSON value describes. -/
def ofJson : Json → Except SchemaFault Schema
  | .object members => (familiesOf members).map Schema.mk
  | _ => .error .notObject

/-- Read a document from its text. -/
def ofText (text : String) : Except SchemaFault Schema :=
  match Json.read text.toList with
  | .error fault => .error (.malformed fault)
  | .ok json => ofJson json

/-- Read a document from its text. The origin only labels errors. -/
def parse (origin text : String) : Except SchemaError Schema :=
  (ofText text).mapError (SchemaError.mk origin)

/-- Load a document from a file. -/
def load {m : Type → Type} [Monad m] [FileAccess m] (path : Path) :
    m (Except SchemaError Schema) := do
  match ← FileAccess.readText path with
  | .error failure => return .error ⟨path.text, .unreadable failure⟩
  | .ok text => return parse path.text text

end Schema

end TreeTypes
