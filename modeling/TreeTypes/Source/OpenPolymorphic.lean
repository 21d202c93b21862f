import TreeTypes.Source.Layout

/-!
# The open layout

A family becomes an empty marker trait, and every variant a structure with a constructor that
implements the trait. There is no formatter.
-/

namespace TreeTypes.Source.OpenPolymorphic

/-- The import lines that the definitions need. -/
def requiredImports (options : SourceOptions) (family : ResolvedFamily) : List String :=
  familyImports options family ++ (if family.hasDynamicFields then [dynamicImport] else [])

/-- The marker trait. -/
def marker (options : SourceOptions) (family : String) : List String :=
  (if options.docs then ["/// Marker implemented by every `" ++ family ++ "` node."] else []) ++
  ["pub trait " ++ family ++ " " ++ emptyBraces]

/-- The declaration of a structure. -/
def structureLines (variant : ResolvedVariant) : List String :=
  if variant.fields.isEmpty then ["pub struct " ++ variant.name ++ " " ++ emptyBraces]
  else
    ["pub struct " ++ variant.name ++ " \x7b"] ++
    variant.fields.map (fun field => "    pub " ++ typedField field ++ ",") ++ ["\x7d"]

/-- The constructor of a structure. -/
def constructorLines (variant : ResolvedVariant) : List String := [
  "impl " ++ variant.name ++ " \x7b",
  "    pub fn new(" ++ typedFields variant.fields ++ ") -> Self \x7b",
  "        Self " ++ literalBody variant.fields,
  "    \x7d",
  "\x7d"]

/-- The definitions of one variant. -/
def variantLines (options : SourceOptions) (family : String) (variant : ResolvedVariant) :
    List String :=
  (if options.docs then
    ["/// `" ++ variant.name ++ "` node of the `" ++ family ++ "` family."] else []) ++
  structureLines variant ++ [""] ++ constructorLines variant ++ [""] ++
  ["impl " ++ family ++ " for " ++ variant.name ++ " " ++ emptyBraces]

/-- The definitions of a family. -/
def definitions (options : SourceOptions) (family : ResolvedFamily) : List String :=
  marker options family.name ++
    family.variants.flatMap fun variant => "" :: variantLines options family.name variant

end TreeTypes.Source.OpenPolymorphic
