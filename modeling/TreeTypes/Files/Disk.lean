import TreeTypes.Files.Operations

/-!
# Disks with faults

A tree says what an operation does and when it has to fail. A disk can fail as well where the tree
has nothing against an operation: it is full, or a quota is used up. Such a failure changes nothing,
but a file whose writing was cut short is there and holds the bytes that were written of it. Faults
strike the operations that change files; everything can be read.
-/

namespace TreeTypes

/-- An operation that changes files. -/
inductive FileOperation where
  | write (path : Path) (content : ByteArray)
  | createDirectory (path : Path)
  | rename (old new : Path)
  | remove (path : Path)

/-- What an operation makes of a tree. -/
def FileTree.apply (tree : FileTree) : FileOperation → Except FileError FileTree
  | .write path content => tree.writeFile path content
  | .createDirectory path => tree.createDirectory path
  | .rename old new => tree.rename old new
  | .remove path => tree.removeFile path

/-- A failure of the disk. -/
structure Fault where
  failure : FileError
  /-- The number of bytes that were written of a file, if it was opened at all. -/
  written : Option Nat := none

/-- The faults of a disk: how an operation fails that the tree on it allows. -/
def Faults := FileTree → FileOperation → Option Fault

/-- A disk that never fails. -/
def Faults.never : Faults := fun _ _ => none

/-- What a fault leaves of a tree. -/
def FileTree.afterFault (tree : FileTree) : FileOperation → Fault → FileTree
  | .write path content, ⟨_, some written⟩ =>
    match tree.writeFile path (content.extract 0 written) with
    | .ok changed => changed
    | .error _ => tree
  | _, _ => tree

/-- Carry out an operation. A tree that does not allow it is left alone. -/
def Faults.perform (faults : Faults) (operation : FileOperation) (tree : FileTree) :
    Except FileError Unit × FileTree :=
  match tree.apply operation with
  | .error failure => (.error failure, tree)
  | .ok changed =>
    match faults tree operation with
    | none => (.ok (), changed)
    | some fault => (.error fault.failure, tree.afterFault operation fault)

end TreeTypes
