import TreeTypes.Text.SnakeCase

/-!
# Identifiers of the generated source

Names of a schema become identifiers of Rust source. A name that is a keyword there is escaped: most
keywords have a raw form, and the four that do not get an underscore. Variant names also give the
names of constructor functions, and family names those of modules.
-/

namespace TreeTypes.Identifier

/-- The keywords of the 2021 edition, strict and reserved. -/
def keywords : List String := [
  "abstract", "as", "async", "await", "become", "box", "break", "const", "continue", "crate",
  "do", "dyn", "else", "enum", "extern", "false", "final", "fn", "for", "if", "impl", "in",
  "let", "loop", "macro", "match", "mod", "move", "mut", "override", "priv", "pub", "ref",
  "return", "self", "Self", "static", "struct", "super", "trait", "true", "try", "type",
  "typeof", "unsafe", "unsized", "use", "virtual", "where", "while", "yield"]

/-- The keywords that have no raw form. -/
def keywordsWithoutRawForm : List String := ["crate", "self", "Self", "super"]

/-- Whether a name is a keyword. -/
def isKeyword (name : String) : Bool :=
  keywords.contains name

/-- Whether a character may start an identifier. -/
def isFirst (c : Char) : Bool :=
  c.isAlpha || c == '_'

/-- Whether a character may stand inside an identifier. -/
def isLater (c : Char) : Bool :=
  c.isAlphanum || c == '_'

/-- Whether a text is spelled like an ASCII identifier. -/
def isSpelled : List Char → Bool
  | [] => false
  | c :: cs => isFirst c && cs.all isLater

/-- A name made usable as an identifier: keywords are escaped, other names stay as they are. -/
def escape (name : String) : String :=
  if !isKeyword name then name
  else if keywordsWithoutRawForm.contains name then name ++ "_"
  else "r#" ++ name

/-- A character of a constructor name: a capital is lower-cased after an underscore. -/
def constructorChar (c : Char) : List Char :=
  if c.isUpper then ['_', c.toLower] else [c]

/-- The constructor name before keywords are escaped. A capital at the front has no underscore. -/
def constructorChars : List Char → List Char
  | [] => []
  | c :: cs => c.toLower :: cs.flatMap constructorChar

/-- The name of the function that builds a variant: `BinaryOp` gives `binary_op`. -/
def constructorName (variant : String) : String :=
  escape (String.ofList (constructorChars variant.toList))

/-- The name of the module that holds a family: `VarDecl` gives `var_decl`. -/
def moduleName (family : String) : String :=
  Text.snakeCase family

@[simp] theorem escape_of_not_isKeyword {name : String} (h : isKeyword name = false) :
    escape name = name := by
  simp [escape, h]

end TreeTypes.Identifier
