import TreeTypes.Source.Options

/-!
# The import block

The generated import lines are kept as a strictly ascending list, so that the text depends only on
the set of lines. A line that the prelude already holds is not generated again.
-/

namespace TreeTypes.Source

/-- Add a line to an ascending list, unless it is there. -/
def insertLine (line : String) : List String → List String
  | [] => [line]
  | first :: rest =>
    if line = first then first :: rest
    else if line < first then line :: first :: rest
    else first :: insertLine line rest

/-- The ascending list of the given lines, each once. -/
def sortedLines (lines : List String) : List String :=
  lines.foldr insertLine []

@[simp] theorem mem_insertLine {x line : String} {lines : List String} :
    x ∈ insertLine line lines ↔ x = line ∨ x ∈ lines := by
  induction lines with
  | nil => simp [insertLine]
  | cons first rest ih =>
    simp only [insertLine]
    split
    · rename_i h; simp [h]
    · split
      · simp
      · simp only [List.mem_cons, ih]; grind

@[simp] theorem mem_sortedLines {x : String} {lines : List String} :
    x ∈ sortedLines lines ↔ x ∈ lines := by
  induction lines with
  | nil => simp [sortedLines]
  | cons line lines ih => simp [sortedLines] at ih ⊢; rw [ih]

/-- The line that imports the formatter. -/
def formatterImport : String := "use std::fmt;"

/-- The line that imports the trait of the opaque payload. -/
def dynamicImport : String := "use std::any::Any;"

/-- The line that imports a family from its module. -/
def familyImport (modulePrefix family : String) : String :=
  "use " ++ modulePrefix ++ "::" ++ Identifier.moduleName family ++ "::" ++ family ++ ";"

/-- The lines that import the families referred to. -/
def familyImports (options : SourceOptions) (family : ResolvedFamily) : List String :=
  match options.modulePrefix with
  | none => []
  | some modulePrefix => family.dependencies.map (familyImport modulePrefix)

/-- The import lines to generate behind a prelude. -/
def importBlock (requiredLines declaredLines : List String) : List String :=
  (sortedLines requiredLines).filter fun line =>
    !declaredLines.any fun declared => String.ofList (Text.trim declared.toList) == line

end TreeTypes.Source
