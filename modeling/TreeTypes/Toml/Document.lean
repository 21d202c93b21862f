import TreeTypes.Toml.Marked
import TreeTypes.Toml.Reader

/-!
# TOML documents

A document is a sequence of lines that open tables and lines that add entries to the table opened
last. A table may be opened once; it may have been named before on the way to another table, but not
by a dotted key. An array of tables gets a new element with each of its headers.
-/

namespace TreeTypes.Toml

/-- A line of a document that says something. -/
inductive Statement where
  | openTable (path : List String)
  | openElement (path : List String)
  | entry (key : List String) (value : Toml)

/-- Read a header behind its opening bracket. -/
def readHeader (cs : List Char) : Option (Statement × List Char) :=
  match cs with
  | '[' :: rest => do
    let (path, rest) ← readKey (rest.length + 1) rest
    let rest ← expectChar ']' rest
    let rest ← expectChar ']' rest
    return (.openElement path, rest)
  | rest => do
    let (path, rest) ← readKey (rest.length + 1) rest
    let rest ← expectChar ']' rest
    return (.openTable path, rest)

/-- The path that a statement names. -/
def Statement.path : Statement → List String
  | openTable path | openElement path | entry path _ => path

/-- Read the statements of a document. -/
def readStatements : (fuel : Nat) → List Char → Option (List Statement)
  | 0, _ => none
  | fuel + 1, cs =>
    match skipSpaces cs with
    | [] => some []
    | c :: rest =>
      let cs := c :: rest
      if c = '#' then
        match lineEnd? cs with
        | some rest => readStatements fuel rest
        | none => none
      else match lineBreak? cs with
        | some rest => readStatements fuel rest
        | none => do
          let (statement, rest) ← if c = '[' then readHeader rest
            else (readEntry (readValue maxDepth) cs).map fun ((key, value), rest) =>
              (.entry key value, rest)
          let rest ← lineEnd? rest
          let statements ← readStatements fuel rest
          if statement.path.length ≤ maxKeyParts then return statement :: statements else none

/-- Open a table by its header. -/
def openTable (path : List String) (items : Items) : Option Items :=
  match path.reverse with
  | [] => none
  | last :: before =>
    let change (_ : TableShape) (items : Items) : Option Items :=
      match items.lookup last with
      | none => some (setItem items last (.table .explicit []))
      | some (.table .implicit entries) => some (setItem items last (.table .explicit entries))
      | some _ => none
    descend .implicit change before.reverse .explicit items

/-- Add an element to an array of tables. -/
def openElement (path : List String) (items : Items) : Option Items :=
  match path.reverse with
  | [] => none
  | last :: before =>
    let change (_ : TableShape) (items : Items) : Option Items :=
      match items.lookup last with
      | none => some (setItem items last (.tables [[]]))
      | some (.tables elements) => some (setItem items last (.tables (elements ++ [[]])))
      | some _ => none
    descend .implicit change before.reverse .explicit items

/-- Carry out a statement. `current` is the path of the table opened last. -/
def Statement.apply (current : List String) (items : Items) :
    Statement → Option (List String × Items)
  | openTable path => (Toml.openTable path items).map fun items => (path, items)
  | openElement path => (Toml.openElement path items).map fun items => (path, items)
  | entry key value =>
    (descend .implicit (addEntry key value) current .explicit items).map fun items =>
      (current, items)

/-- The mark that may stand at the front of a text. -/
def byteOrderMark : Char := '\uFEFF'

/-- Read a document. It is a table, unless the mark of a moment is its first key. -/
def parse (text : String) : Option Toml := do
  let cs := match text.toList with
    | c :: rest => if c = byteOrderMark then rest else c :: rest
    | [] => []
  let statements ← readStatements (cs.length + 1) cs
  let (_, items) ← statements.foldlM
    (fun (current, items) statement => statement.apply current items) ([], [])
  readMarks (.table (tomlOfItems items))

end TreeTypes.Toml
