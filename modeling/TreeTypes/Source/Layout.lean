import TreeTypes.Source.Imports

/-!
# Pieces that the layouts share

A generated text is a list of lines, each ended by a line break: a banner, the prelude with the
imports, and the definitions.
-/

namespace TreeTypes.Source

/-- The text of lines, each ended by a line break. -/
def textOfLines (lines : List String) : String :=
  String.join (lines.map (· ++ "\n"))

/-- The rule above and below the banner. -/
def bannerRule : String := "////////////////////////////////////////"

/-- The lines of the banner. -/
def banner (family : String) (strategy : Strategy) (policy : Policy) : List String := [
  bannerRule,
  "// `" ++ family ++ "` family",
  "// auto-generated by astgen (" ++ strategy.name ++ ", " ++ policy.name ++ " policy)",
  "// Do not edit by hand.",
  bannerRule,
  ""]

/-- A prelude line as it is written: blanks at its end are dropped. -/
def preludeLine (line : String) : String :=
  String.ofList (Text.trimEnd line.toList)

/-- The prelude and the import block, followed by an empty line unless both are empty. -/
def preludeBlock (preludeLines requiredLines : List String) : List String :=
  let imports := importBlock requiredLines preludeLines
  preludeLines.map preludeLine ++ imports ++
    (if imports.isEmpty && preludeLines.isEmpty then [] else [""])

/-- Everything in front of the definitions. -/
def header (family : String) (strategy : Strategy) (policy : Policy)
    (preludeLines requiredLines : List String) : List String :=
  banner family strategy policy ++ preludeBlock preludeLines requiredLines

/-- A field with its type, as it stands in a declaration. -/
def typedField (field : ResolvedField) : String :=
  Identifier.escape field.name ++ ": " ++ field.type

/-- The fields of a declaration or the parameters of a constructor. -/
def typedFields (fields : List ResolvedField) : String :=
  String.intercalate ", " (fields.map typedField)

/-- The names of fields, as they stand in a literal. -/
def fieldNames (fields : List ResolvedField) : String :=
  String.intercalate ", " (fields.map fun field => Identifier.escape field.name)

/-- Text between braces, which touch where there is nothing between them. -/
def braced (inner : String) : String :=
  "\x7b " ++ inner ++ " \x7d"

/-- Two braces with nothing between them. -/
def emptyBraces : String := "\x7b\x7d"

/-- The body of a structure literal whose fields have the names of the parameters. -/
def literalBody (fields : List ResolvedField) : String :=
  if fields.isEmpty then emptyBraces else braced (fieldNames fields)

end TreeTypes.Source
