import TreeTypes.Grammar.Identifier

/-!
# Variants

A variant is one case of a union: a name and a list of typed fields, in the order in which its
constructor takes them. A schema writes it as one line of text,

    Binary : Expr left, Token operator, Expr right

Since a comma separates fields, a declared type writes the commas of its arguments as hyphens;
reading the entry turns them back.
-/

namespace TreeTypes

/-- A named field and the type that the schema declares for it. -/
structure Field where
  name : String
  type : String
  deriving DecidableEq, Repr

/-- One case of a family. -/
structure Variant where
  name : String
  fields : List Field
  deriving DecidableEq, Repr

/-- Why an entry of a schema is rejected. -/
inductive Malformed where
  | missingSeparator
  | emptyVariantName
  | invalidIdentifier (name : String)
  | fieldShape (fragment : String)
  | duplicateField (name : String)
  | duplicateVariant (name : String)
  | constructorClash (constructor first second : String)
  deriving DecidableEq, Repr

/-- An entry of a schema together with the reason for rejecting it. -/
structure Rejection where
  entry : String
  reason : Malformed
  deriving DecidableEq, Repr

namespace Malformed

/-- The wording of a reason. -/
def message : Malformed → String
  | missingSeparator => "missing ':' between variant name and field list"
  | emptyVariantName => "variant name is empty"
  | invalidIdentifier name => "'" ++ name ++ "' is not a valid identifier"
  | fieldShape fragment =>
    "field fragment '" ++ fragment ++ "' must be exactly '<type> <name>'"
  | duplicateField name => "field '" ++ name ++ "' is declared more than once"
  | duplicateVariant name => "variant '" ++ name ++ "' is declared more than once in its family"
  | constructorClash constructor first second =>
    "constructor '" ++ constructor ++ "' would be generated for both '" ++ first ++ "' and '" ++
      second ++ "'"

end Malformed

/-- The wording of a rejection. -/
def Rejection.message (rejection : Rejection) : String :=
  "malformed variant '" ++ rejection.entry ++ "': " ++ rejection.reason.message

namespace Field

/-- How a listing shows a field. -/
def display (field : Field) : String :=
  field.name ++ ": " ++ field.type

/-- A declared type with the separators of its arguments written as commas. -/
def typeOf (token : List Char) : String :=
  String.ofList (token.map fun c => if c = '-' then ',' else c)

/-- Read one `type name` fragment. -/
def parse (fragment : List Char) : Except Malformed Field :=
  match Text.words fragment with
  | [type, name] =>
    if Identifier.isSpelled name then .ok ⟨String.ofList name, typeOf type⟩
    else .error (.invalidIdentifier (String.ofList name))
  | _ => .error (.fieldShape (String.ofList (Text.trim fragment)))

/-- Read fragments from left to right. `seen` holds the names of the fields before them. -/
def parseAll (seen : List String) : List (List Char) → Except Malformed (List Field)
  | [] => .ok []
  | fragment :: rest => do
    let field ← parse fragment
    if seen.contains field.name then throw (.duplicateField field.name)
    let fields ← parseAll (field.name :: seen) rest
    return field :: fields

end Field

namespace Variant

/-- The names of the fields, in order. -/
def fieldNames (variant : Variant) : List String :=
  variant.fields.map (·.name)

/-- How a listing shows a variant. -/
def display (variant : Variant) : String :=
  match variant.fields with
  | [] => variant.name ++ " ->"
  | fields => variant.name ++ " -> " ++ String.intercalate ", " (fields.map Field.display)

/-- Read the text after the separator. A blank text declares no fields. -/
def parseFields (text : List Char) : Except Malformed (List Field) :=
  if (Text.trim text).isEmpty then .ok [] else Field.parseAll [] (Text.split ',' text)

/-- Read an entry, giving only the reason when it is rejected. A variant names a type, and there is
no escape for that, so a keyword is refused. -/
def read (entry : List Char) : Except Malformed Variant :=
  match Text.splitOnce ':' entry with
  | none => .error .missingSeparator
  | some (before, after) =>
    let name := Text.trim before
    if name.isEmpty then .error .emptyVariantName
    else if !Identifier.isSpelled name || Identifier.isKeyword (String.ofList name) then
      .error (.invalidIdentifier (String.ofList name))
    else (parseFields after).map fun fields => ⟨String.ofList name, fields⟩

/-- Read one entry of a schema. -/
def parse (entry : String) : Except Rejection Variant :=
  (read entry.toList).mapError fun reason => ⟨entry, reason⟩

end Variant

end TreeTypes
