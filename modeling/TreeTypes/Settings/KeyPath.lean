import TreeTypes.Settings.Value

/-!
# Key paths

A key may name a place deep inside the settings: `families[0].name` is the name of the first family.
The names in it are read in lower case. Setting a place makes everything on the way that is missing;
tables are merged entry by entry, any other value replaces what was there. An index below zero
counts from the end.
-/

namespace TreeTypes

/-- A place inside the settings. -/
inductive KeyPath where
  | key (name : String)
  | child (parent : KeyPath) (name : String)
  | element (parent : KeyPath) (index : Int)
  deriving DecidableEq, Repr

namespace KeyPath

/-- Whether a character may stand in the name of a key. -/
def isNameChar (c : Char) : Bool :=
  c.isAlphanum || c == ' ' || c == '_' || c == '-'

/-- Read a name. -/
def readName (cs : List Char) : Option (String × List Char) :=
  let name := cs.takeWhile isNameChar
  if name.isEmpty then none
  else some (Text.lowerText (String.ofList name), cs.dropWhile isNameChar)

/-- Read an index up to its closing bracket. -/
def readIndex (cs : List Char) : Option (Int × List Char) :=
  let cs := Toml.skipSpaces cs
  let (negative, cs) := match cs with
    | '-' :: rest => (true, rest)
    | cs => (false, cs)
  let digits := cs.takeWhile Char.isDigit
  let value : Int := Toml.digitsValue 10 digits
  let index := if negative then -value else value
  match Toml.skipSpaces (cs.dropWhile Char.isDigit) with
  | ']' :: rest =>
    if digits.isEmpty || !Toml.fitsInteger index then none else some (index, rest)
  | _ => none

/-- Read what follows the place read so far. -/
def readSteps : (fuel : Nat) → KeyPath → List Char → Option KeyPath
  | _, path, [] => some path
  | 0, _, _ => none
  | fuel + 1, path, '.' :: rest => do
    let (name, rest) ← readName rest
    readSteps fuel (.child path name) rest
  | fuel + 1, path, '[' :: rest => do
    let (index, rest) ← readIndex rest
    readSteps fuel (.element path index) rest
  | _ + 1, _, _ => none

/-- Read a key path. -/
def parse? (text : String) : Option KeyPath := do
  let cs := text.toList
  let (name, rest) ← readName cs
  readSteps rest.length (.key name) rest

/-- The place that a key stands for. A key that is no path is taken as a name. -/
def ofKey (text : String) : KeyPath :=
  (parse? text).getD (.key text)

mutual

/-- Merge a value into the entry of a table. -/
def mergeEntry (root : Setting) (name : String) : Setting → Setting
  | .mk _ (.table entries) =>
    let key := Text.lowerText name
    let existing := (root.entries.lookup key).getD Setting.emptyTable
    root.setEntry key (mergeEntries existing entries)
  | .mk origin value => root.setEntry (Text.lowerText name) ⟨origin, value⟩

/-- Merge entries into a setting one after the other. -/
def mergeEntries (root : Setting) : List (String × Setting) → Setting
  | [] => root
  | (name, value) :: rest => mergeEntries (mergeEntry root name value) rest

end

/-- The elements of an array in which an index exists, and the position of that index. Missing
elements are added empty, behind the others or, for an index below zero, in front of them. -/
def padded (elements : List Setting) (index : Int) : List Setting × Nat :=
  if 0 ≤ index then
    (elements ++ List.replicate (index.toNat + 1 - elements.length) Setting.null, index.toNat)
  else
    let back := (-index).toNat
    if back ≤ elements.length then (elements, elements.length - back)
    else (List.replicate (back - elements.length) Setting.null ++ elements, 0)

/-- Change the setting at a place. -/
def alter (change : Setting → Setting) (root : Setting) : KeyPath → Setting
  | .key name => root.setEntry name (change (root.entryOrNull name))
  | .child parent name =>
    alter (fun setting => setting.setEntry name (change (setting.entryOrNull name))) root parent
  | .element parent index =>
    alter (fun setting =>
      let (elements, position) := padded setting.elements index
      ⟨match setting.value with
        | .array _ => setting.origin
        | _ => none, .array (elements.modify position change)⟩) root parent

/-- Set the value at a place. -/
def set (root : Setting) (path : KeyPath) (value : Setting) : Setting :=
  match path with
  | .key name => mergeEntry root name value
  | .child parent name => alter (fun setting => mergeEntry setting name value) root parent
  | .element .. => alter (fun _ => value) root path

end KeyPath

namespace Setting

/-- Set the values of keys one after the other. -/
def setAll (root : Setting) (entries : List (String × Setting)) : Setting :=
  entries.foldl (fun root (key, value) => KeyPath.set root (.ofKey key) value) root

/-- Layer sources of settings, later ones over earlier ones. -/
def layered (sources : List (List (String × Setting))) : Setting :=
  emptyTable.setAll (sources.foldl setAll emptyTable).entries

end Setting

end TreeTypes
