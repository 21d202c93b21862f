import TreeTypes.Source.Layout

/-!
# The closed layout

A family becomes one enumeration with a case per variant, one constructor function per case and a
formatter that shows the derived debugging form.
-/

namespace TreeTypes.Source.ClosedUnion

/-- The import lines that the definitions need. Constructors return a handle under the shared policy
even where no field holds one. -/
def requiredImports (options : SourceOptions) (policy : Policy) (handle : SharedHandle)
    (family : ResolvedFamily) : List String :=
  familyImports options family ++ [formatterImport] ++
    (if policy = .shared || family.hasFamilyReferences || family.hasDynamicFields then
      [handle.importLine] else []) ++
    (if family.hasDynamicFields then [dynamicImport] else [])

/-- The derived traits, the one that the formatter needs first and none twice. -/
def derivedTraits (options : SourceOptions) : List String :=
  let chosen := options.derives.map fun name => String.ofList (Text.trim name.toList)
  "Debug" :: firstOccurrences ["Debug"] (chosen.filter (· != ""))

/-- One case of the enumeration. -/
def caseLine (variant : ResolvedVariant) : String :=
  "    " ++ variant.name ++ " " ++
    (if variant.fields.isEmpty then emptyBraces else braced (typedFields variant.fields)) ++ ","

/-- The enumeration. -/
def enumeration (options : SourceOptions) (family : ResolvedFamily) : List String :=
  (if options.docs then ["/// `" ++ family.name ++ "` syntax tree node."] else []) ++
  ["#[derive(" ++ String.intercalate ", " (derivedTraits options) ++ ")]",
    "pub enum " ++ family.name ++ " \x7b"] ++
  family.variants.map caseLine ++ ["\x7d"]

/-- The type that constructors return. -/
def returnType (policy : Policy) (handle : SharedHandle) (family : String) : String :=
  if policy = .shared then handle.wrap family else family

/-- The value that a constructor builds. -/
def caseLiteral (family : String) (variant : ResolvedVariant) : String :=
  family ++ "::" ++ variant.name ++ " " ++ literalBody variant.fields

/-- The expression that a constructor returns. -/
def returned (policy : Policy) (handle : SharedHandle) (family : String)
    (variant : ResolvedVariant) : String :=
  if policy = .shared then handle.typeName ++ "::new(" ++ caseLiteral family variant ++ ")"
  else caseLiteral family variant

/-- One constructor function. -/
def constructorLines (options : SourceOptions) (policy : Policy) (handle : SharedHandle)
    (family : String) (variant : ResolvedVariant) : List String :=
  (if options.docs then
    ["    /// Builds a [`" ++ family ++ "::" ++ variant.name ++ "`]."] else []) ++
  ["    pub fn " ++ Identifier.constructorName variant.name ++ "(" ++
      typedFields variant.fields ++ ") -> " ++ returnType policy handle family ++ " \x7b",
    "        " ++ returned policy handle family variant,
    "    \x7d"]

/-- The constructor functions, with an empty line between two of them. -/
def constructorBlock (options : SourceOptions) (policy : Policy) (handle : SharedHandle)
    (family : ResolvedFamily) : List String :=
  ["impl " ++ family.name ++ " \x7b"] ++
  [""].intercalate (family.variants.map (constructorLines options policy handle family.name)) ++
  ["\x7d"]

/-- The formatter. -/
def formatter (family : String) : List String := [
  "impl fmt::Display for " ++ family ++ " \x7b",
  "    fn fmt(&self, f: &mut fmt::Formatter<'_>) -> fmt::Result \x7b",
  "        write!(f, \"\x7b:?\x7d\", self)",
  "    \x7d",
  "\x7d"]

/-- The definitions of a family. -/
def definitions (options : SourceOptions) (policy : Policy) (handle : SharedHandle)
    (family : ResolvedFamily) : List String :=
  enumeration options family ++ [""] ++ constructorBlock options policy handle family ++ [""] ++
    formatter family.name

end TreeTypes.Source.ClosedUnion
