import TreeTypes.Grammar.Family
import TreeTypes.Ownership

/-!
# Resolution of declared types

Every declared type of a family is mapped to a type of the generated source. The mapping knows the
families of the schema, the types that are defined elsewhere and the ownership policy. Final types
pass unchanged, references to families and the dynamic payload are put behind a handle, and a type
that fits no rule is an error.

`Resolver.dependencies` finds the referenced families from the declared types alone;
`ResolvedFamily.dependencies` collects them from the resolved fields.
-/

namespace TreeTypes

/-- How a declared type was mapped. -/
inductive TypeKind where
  /-- A type that is emitted unchanged. -/
  | final
  /-- The opaque payload. -/
  | dynamic
  /-- A reference to the family being generated. -/
  | selfReference
  /-- A reference to another family of the schema. -/
  | crossFamily (name : String)
  deriving DecidableEq, Repr

/-- A field with its type in the generated source. -/
structure ResolvedField where
  name : String
  declaredType : String
  type : String
  kind : TypeKind
  deriving DecidableEq, Repr

/-- A variant whose fields have been resolved. -/
structure ResolvedVariant where
  name : String
  fields : List ResolvedField
  deriving DecidableEq, Repr

/-- A family whose fields have been resolved under one policy. -/
structure ResolvedFamily where
  name : String
  variants : List ResolvedVariant
  /-- The other families it refers to, in the order of the first reference. -/
  dependencies : List String
  deriving DecidableEq, Repr

/-- A field whose declared type fits no rule. -/
structure UnresolvedType where
  family : String
  variant : String
  field : String
  type : String
  deriving DecidableEq, Repr

/-- The wording of the error. -/
def UnresolvedType.message (unresolved : UnresolvedType) : String :=
  "no mapping for type '" ++ unresolved.type ++ "' of field '" ++ unresolved.field ++
    "' in variant '" ++ unresolved.family ++ "::" ++ unresolved.variant ++ "'"

namespace TypeKind

/-- Whether the kind is a reference to this or another family. -/
def isReference : TypeKind → Bool
  | selfReference | crossFamily _ => true
  | final | dynamic => false

/-- The other family that a kind refers to. -/
def dependency? : TypeKind → Option String
  | crossFamily name => some name
  | final | dynamic | selfReference => none

end TypeKind

namespace ResolvedFamily

/-- The fields of all variants, in order. -/
def fields (family : ResolvedFamily) : List ResolvedField :=
  family.variants.flatMap (·.fields)

/-- Whether a field holds the opaque payload. -/
def hasDynamicFields (family : ResolvedFamily) : Bool :=
  family.fields.any (·.kind == .dynamic)

/-- Whether a field refers to this or another family. -/
def hasFamilyReferences (family : ResolvedFamily) : Bool :=
  family.fields.any (·.kind.isReference)

end ResolvedFamily

/-- Names in the order of their first occurrence. `seen` holds the names before them. -/
def firstOccurrences (seen : List String) : List String → List String
  | [] => []
  | name :: rest =>
    if seen.contains name then firstOccurrences seen rest
    else name :: firstOccurrences (name :: seen) rest

/-- The declared type of the opaque payload. -/
def dynamicType : String := "Any"

/-- The types of the generated language that need no mapping. -/
def primitiveTypes : List String := [
  "bool", "char", "i8", "i16", "i32", "i64", "i128", "isize", "u8", "u16", "u32", "u64", "u128",
  "usize", "f32", "f64", "String", "()"]

/-- Whether a declared type is already spelled in the syntax of the generated source. -/
def isCompoundType (type : String) : Bool :=
  type.toList.any ['<', '>', '(', ')', '[', ']', '&', ','].contains

/-- The mapping of declared types under one policy. -/
structure Resolver where
  policy : Policy
  handle : SharedHandle
  /-- The families that may be referred to by name. -/
  families : List String := []
  /-- The types that are defined outside the generated modules. -/
  externTypes : List String := []
  deriving DecidableEq, Repr

namespace Resolver

/-- A trait object, or a family, behind the owning handle. -/
def boxed (inner : String) : String :=
  "Box<dyn " ++ inner ++ ">"

/-- The type of the opaque payload. -/
def dynamicHandle (resolver : Resolver) : String :=
  if resolver.policy.usesSharedHandle then resolver.handle.wrap ("dyn " ++ dynamicType)
  else boxed dynamicType

/-- The type of a reference to a family. -/
def familyHandle (resolver : Resolver) (family : String) : String :=
  if resolver.policy.usesSharedHandle then resolver.handle.wrap family else boxed family

/-- Whether a declared type passes unchanged. -/
def isFinal (resolver : Resolver) (type : String) : Bool :=
  primitiveTypes.contains type || resolver.externTypes.contains type || isCompoundType type

/-- Map a declared type, as seen from inside a family. -/
def resolve (resolver : Resolver) (family type : String) : Option (String × TypeKind) :=
  if type = dynamicType then some (resolver.dynamicHandle, .dynamic)
  else if type = family then some (resolver.familyHandle type, .selfReference)
  else if resolver.families.contains type then
    some (resolver.familyHandle type, .crossFamily type)
  else if resolver.isFinal type then some (type, .final)
  else none

/-- Resolve a field of a variant. -/
def resolveField (resolver : Resolver) (family variant : String) (field : Field) :
    Except UnresolvedType ResolvedField :=
  match resolver.resolve family field.type with
  | some (type, kind) => .ok ⟨field.name, field.type, type, kind⟩
  | none => .error ⟨family, variant, field.name, field.type⟩

/-- Resolve the fields of a variant. -/
def resolveVariant (resolver : Resolver) (family : String) (variant : Variant) :
    Except UnresolvedType ResolvedVariant := do
  let fields ← variant.fields.mapM (resolver.resolveField family variant.name)
  return ⟨variant.name, fields⟩

/-- Resolve every field of a family. The first field that fits no rule fails. -/
def resolveFamily (resolver : Resolver) (family : Family) :
    Except UnresolvedType ResolvedFamily := do
  let variants ← family.variants.mapM (resolver.resolveVariant family.name)
  let kinds := variants.flatMap fun variant => variant.fields.map (·.kind)
  return ⟨family.name, variants, firstOccurrences [] (kinds.filterMap (·.dependency?))⟩

/-- The other registered families that a family refers to, in the order of the first reference. -/
def dependencies (resolver : Resolver) (family : Family) : List String :=
  let types := family.variants.flatMap fun variant => variant.fields.map (·.type)
  firstOccurrences [] (types.filter fun type =>
    type != family.name && resolver.families.contains type)

end Resolver

end TreeTypes
