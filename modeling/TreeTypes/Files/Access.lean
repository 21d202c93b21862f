import TreeTypes.Files.Disk

/-!
# Access to files

Everything that reads or writes files is written against `FileAccess`, the handful of operations
that it needs. A program runs them on the disk of its machine; proofs and tests run them on a
`FileTree` that stands on a disk with given faults, or on one that never fails.
-/

namespace TreeTypes

/-- The sort of an item. -/
inductive EntryKind where
  | file
  | link
  | directory
  /-- Anything else, such as a device. -/
  | special
  deriving DecidableEq, Repr

/-- The sort of what stands at a location. -/
def Item.kind : Item → EntryKind
  | .file _ => .file
  | .link _ => .link
  | .special _ => .special
  | .directory => .directory

/-- The operations on files that a program may use. -/
class FileAccess (m : Type → Type) where
  /-- The sort of what a path leads to. A link at its end is followed on demand. -/
  entryKind : (followLast : Bool) → Path → m (Except FileError EntryKind)
  readFile : Path → m (Except FileError ByteArray)
  writeFile : Path → ByteArray → m (Except FileError Unit)
  createDirectory : Path → m (Except FileError Unit)
  rename : Path → Path → m (Except FileError Unit)
  removeFile : Path → m (Except FileError Unit)

/-- A computation on a tree that stands on a disk with faults. -/
def OnDisk (_ : Faults) (α : Type) : Type := StateM FileTree α

instance (faults : Faults) : Monad (OnDisk faults) :=
  inferInstanceAs (Monad (StateM FileTree))

instance (faults : Faults) : FileAccess (OnDisk faults) where
  entryKind followLast path := fun tree => ((tree.itemAt followLast path).map Item.kind, tree)
  readFile path := fun tree => (tree.readFile path, tree)
  writeFile path content := faults.perform (.write path content)
  createDirectory path := faults.perform (.createDirectory path)
  rename old new := faults.perform (.rename old new)
  removeFile path := faults.perform (.remove path)

/-- A computation on a tree, which alone decides what fails. -/
abbrev OnTree := OnDisk .never

namespace OnTree

/-- Look at the tree. -/
def look {α : Type} (f : FileTree → α) : OnTree α :=
  fun tree => (f tree, tree)

/-- Change the tree, or leave it alone on failure. -/
def change (f : FileTree → Except FileError FileTree) : OnTree (Except FileError Unit) :=
  fun tree => match f tree with
    | .ok changed => (.ok (), changed)
    | .error failure => (.error failure, tree)

end OnTree

namespace FileAccess

variable {m : Type → Type} [Monad m] [FileAccess m]

/-- Whether a path leads to something. -/
def pathExists (path : Path) : m Bool := do
  match ← entryKind true path with
  | .ok _ => return true
  | .error _ => return false

/-- Whether a path leads to a regular file. -/
def isFile (path : Path) : m Bool := do
  match ← entryKind true path with
  | .ok .file => return true
  | _ => return false

/-- Whether a path leads to a directory. -/
def isDirectory (path : Path) : m Bool := do
  match ← entryKind true path with
  | .ok .directory => return true
  | _ => return false

/-- The content of a file as text. -/
def readText (path : Path) : m (Except FileError String) := do
  match ← readFile path with
  | .error failure => return .error failure
  | .ok content =>
    match String.fromUTF8? content with
    | some text => return .ok text
    | none => return .error .notUtf8

/-- Write a text as the content of a file. -/
def writeText (path : Path) (text : String) : m (Except FileError Unit) :=
  writeFile path text.toUTF8

/-- Create a directory unless it is there. -/
def ensureDirectory (path : Path) : m (Except FileError Unit) := do
  match ← createDirectory path with
  | .error .alreadyExists =>
    if ← isDirectory path then return .ok () else return .error .alreadyExists
  | result => return result

/-- Create the first directory of a lineage, after those that it lies in. -/
def ensureLineage : List Path → m (Except FileError Unit)
  | [] => return .ok ()
  | path :: above => do
    match ← ensureDirectory path with
    | .error .notFound =>
      match ← ensureLineage above with
      | .error failure => return .error failure
      | .ok () => ensureDirectory path
    | result => return result

/-- Create a directory and those that it lies in, as far as they are missing. -/
def ensureDirectories (path : Path) : m (Except FileError Unit) :=
  ensureLineage path.lineage

end FileAccess

end TreeTypes
