import TreeTypes.Toml.Moment
import TreeTypes.Toml.Number
import TreeTypes.Toml.Text

/-!
# Reading TOML values

Keys, arrays and inline tables. An inline table stands on one line and ends without a comma; dotted
keys inside it open tables that only dotted keys may extend. Values may be nested 79 deep, which is
the structural argument of `readValue`.
-/

namespace TreeTypes.Toml

/-- Whether a character may stand in a bare key. -/
def isBareKeyChar (c : Char) : Bool :=
  c.isAlphanum || c == '_' || c == '-'

/-- Read one part of a dotted key. -/
def readKeyPart (cs : List Char) : Option (String × List Char) :=
  match readShortText cs with
  | some read => some read
  | none =>
    let bare := cs.takeWhile isBareKeyChar
    if bare.isEmpty then none else some (String.ofList bare, cs.dropWhile isBareKeyChar)

/-- Read the parts of a dotted key, with spaces around each. -/
def readKey : (fuel : Nat) → Reader (List String)
  | 0, _ => none
  | fuel + 1, cs => do
    let (part, rest) ← readKeyPart (skipSpaces cs)
    match skipSpaces rest with
    | '.' :: rest =>
      let (parts, rest) ← readKey fuel rest
      return (part :: parts, rest)
    | rest => return ([part], rest)

/-- The number of parts that a dotted key may have. -/
def maxKeyParts : Nat := 79

/-- Read a key and the value behind it. -/
def readEntry (value : Reader Toml) (cs : List Char) :
    Option ((List String × Toml) × List Char) := do
  let (key, rest) ← readKey (cs.length + 1) cs
  let rest ← expectChar '=' rest
  let (read, rest) ← value (skipSpaces rest)
  if key.length ≤ maxKeyParts then return ((key, read), rest) else none

/-- Skip spaces, comments and line breaks. -/
def skipLines : (fuel : Nat) → List Char → List Char
  | 0, cs => cs
  | fuel + 1, cs =>
    let rest := skipComment (skipSpaces cs)
    match lineBreak? rest with
    | some rest => skipLines fuel rest
    | none => rest

/-- The elements of an array, up to its closing bracket. -/
def readElements (value : Reader Toml) : (fuel : Nat) → Reader (List Toml)
  | 0, _ => none
  | fuel + 1, cs =>
    match skipLines cs.length cs with
    | ']' :: rest => some ([], rest)
    | cs => do
      let (first, rest) ← value cs
      match skipLines rest.length rest with
      | ']' :: rest => return ([first], rest)
      | ',' :: rest =>
        let (more, rest) ← readElements value fuel rest
        return (first :: more, rest)
      | _ => none

/-- The entries of an inline table behind its first one, up to the closing brace. -/
def readInlineEntries (value : Reader Toml) : (fuel : Nat) → Reader (List (List String × Toml))
  | 0, _ => none
  | fuel + 1, cs => do
    let (first, rest) ← readEntry value cs
    match skipSpaces rest with
    | '\x7d' :: rest => return ([first], rest)
    | ',' :: rest =>
      let (more, rest) ← readInlineEntries value fuel rest
      return (first :: more, rest)
    | _ => none

/-- How a table came to be, which decides what may extend it. -/
inductive TableShape where
  /-- Opened by its own header, or written out. -/
  | explicit
  /-- Named on the way to the table of a header. -/
  | implicit
  /-- Opened by a dotted key. -/
  | dotted
  deriving DecidableEq, Repr

/-- An entry of a table under construction. -/
inductive Item where
  | value (value : Toml)
  | table (shape : TableShape) (entries : List (String × Item))
  | tables (elements : List (List (String × Item)))

/-- A table under construction. -/
abbrev Items := List (String × Item)

/-- Replace the entry of a key, or add it behind the others. -/
def setItem (items : Items) (key : String) (item : Item) : Items :=
  if items.any (·.1 == key) then items.map fun (k, i) => if k = key then (k, item) else (k, i)
  else items ++ [(key, item)]

/-- Go down a path and change the table at its end. Missing tables on the way are opened with the
given shape. A dotted key may not enter a table that has a header. -/
def descend (opened : TableShape) (change : TableShape → Items → Option Items) :
    List String → TableShape → Items → Option Items
  | [], shape, items => change shape items
  | key :: rest, _, items =>
    match items.lookup key with
    | none => do
      let inner ← descend opened change rest opened []
      return setItem items key (.table opened inner)
    | some (.value _) => none
    | some (.tables elements) =>
      match elements.reverse with
      | [] => none
      | last :: before => do
        let inner ← descend opened change rest .explicit last
        return setItem items key (.tables (before.reverse ++ [inner]))
    | some (.table shape entries) =>
      if opened = .dotted ∧ shape = .explicit then none
      else do
        let inner ← descend opened change rest shape entries
        return setItem items key (.table shape inner)

/-- Add the value of a dotted key to a table. -/
def addEntry (key : List String) (value : Toml) (shape : TableShape) (items : Items) :
    Option Items :=
  match key.reverse with
  | [] => none
  | last :: before =>
    let insert (shape : TableShape) (items : Items) : Option Items :=
      if (shape == .dotted) == before.isEmpty then none
      else if items.any (·.1 == last) then none
      else some (items ++ [(last, .value value)])
    descend .dotted insert before.reverse shape items

mutual

/-- The value of a finished entry. -/
def Item.toToml : Item → Toml
  | .value value => value
  | .table _ entries => .table (tomlOfItems entries)
  | .tables elements => .array (tomlOfTables elements)

/-- The entries of a finished table. -/
def tomlOfItems : List (String × Item) → List (String × Toml)
  | [] => []
  | (key, item) :: rest => (key, item.toToml) :: tomlOfItems rest

/-- The elements of a finished array of tables. -/
def tomlOfTables : List (List (String × Item)) → List Toml
  | [] => []
  | items :: rest => .table (tomlOfItems items) :: tomlOfTables rest

end

/-- The table of the entries of an inline table. -/
def inlineTable (entries : List (List String × Toml)) : Option Toml := do
  let items ← entries.foldlM (fun items (key, value) => addEntry key value .explicit items) []
  return .table (tomlOfItems items)

/-- Read a value. `depth` bounds how deep arrays and inline tables may still be nested. -/
def readValue : (depth : Nat) → Reader Toml
  | _, [] => none
  | depth, c :: rest =>
    let cs := c :: rest
    if c = '"' ∨ c = literalQuote then (readText cs).map fun (t, rest) => (.text t, rest)
    else if c = '[' then
      match depth with
      | 0 => none
      | depth + 1 =>
        (readElements (readValue depth) (rest.length + 1) rest).map fun (elements, rest) =>
          (.array elements, rest)
    else if c = '\x7b' then
      match depth with
      | 0 => none
      | depth + 1 =>
        match skipSpaces rest with
        | '\x7d' :: rest => some (.table [], rest)
        | rest => do
          let (entries, rest) ← readInlineEntries (readValue depth) (rest.length + 1) rest
          let table ← inlineTable entries
          return (table, rest)
    else if c = 't' then
      match rest with
      | 'r' :: 'u' :: 'e' :: rest => some (.bool true, rest)
      | _ => none
    else if c = 'f' then
      match rest with
      | 'a' :: 'l' :: 's' :: 'e' :: rest => some (.bool false, rest)
      | _ => none
    else if startsDate cs || startsTime cs then readMoment cs
    else readNumber cs

/-- How deep arrays and inline tables may be nested. -/
def maxDepth : Nat := 79

end TreeTypes.Toml
