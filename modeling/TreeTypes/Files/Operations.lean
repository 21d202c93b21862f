import TreeTypes.Files.Walk

/-!
# Operations on a tree

Each operation either fails and leaves the tree alone, or gives the changed tree. The order of the
checks is that of the system calls, so that of several failures the same one is reported.
-/

namespace TreeTypes.FileTree

/-- What a path leads to. -/
def itemAt (tree : FileTree) (followLast : Bool) (path : Path) : Except FileError Item :=
  match tree.resolve followLast path with
  | .error failure => .error failure
  | .ok (.vacant ..) => .error .notFound
  | .ok (.found location) =>
    match tree.item? location with
    | some item => .ok item
    | none => .error .notFound

/-- The content of a file. -/
def readFile (tree : FileTree) (path : Path) : Except FileError ByteArray :=
  match tree.itemAt true path with
  | .error failure => .error failure
  | .ok (.file content) | .ok (.special content) => .ok content
  | .ok .directory => .error .isDirectory
  | .ok (.link _) => .error .tooManyLinks

/-- Replace the content of a file, or create it. A special file keeps nothing of it. -/
def writeFile (tree : FileTree) (path : Path) (content : ByteArray) :
    Except FileError FileTree :=
  match tree.resolveToWrite path with
  | .error failure => .error failure
  | .ok (.vacant parent name) => .ok (tree.put (parent ++ [name]) (some (.file content)))
  | .ok (.found location) =>
    match tree.item? location with
    | some (.file _) => .ok (tree.put location (some (.file content)))
    | some (.special _) => .ok tree
    | _ => .error .isDirectory

/-- Create a directory in an existing one. -/
def createDirectory (tree : FileTree) (path : Path) : Except FileError FileTree :=
  match tree.resolveParent path with
  | .error failure => .error failure
  | .ok (_, .none) => .error .alreadyExists
  | .ok (parent, .name name _) =>
    match tree.item? (parent ++ [name]) with
    | some _ => .error .alreadyExists
    | none => .ok (tree.put (parent ++ [name]) (some (.directory [])))

/-- Remove what is no directory. -/
def removeFile (tree : FileTree) (path : Path) : Except FileError FileTree :=
  match tree.resolveParent path with
  | .error failure => .error failure
  | .ok (_, .none) => .error .isDirectory
  | .ok (parent, .name name slash) =>
    match tree.item? (parent ++ [name]) with
    | none => .error .notFound
    | some .directory => .error .isDirectory
    | some _ =>
      if slash then .error .notDirectory else .ok (tree.put (parent ++ [name]) none)

/-- Why a node cannot take the place of what stands at a location. -/
def replaceFailure? (tree : FileTree) (node : Node) (target : Location) : Option FileError :=
  match node, tree.node? target with
  | _, none => none
  | .directory _, some (.directory entries) =>
    if entries.isEmpty then none else some .directoryNotEmpty
  | .directory _, some _ => some .notDirectory
  | _, some (.directory _) => some .isDirectory
  | _, some _ => none

/-- Move what stands at a path, replacing what stands at the new path if both are directories or
neither is. -/
def rename (tree : FileTree) (old new : Path) : Except FileError FileTree :=
  match tree.resolveParent old with
  | .error failure => .error failure
  | .ok (oldParent, oldLast) =>
    match tree.resolveParent new with
    | .error failure => .error failure
    | .ok (newParent, newLast) =>
      match oldLast, newLast with
      | .name oldName oldSlash, .name newName newSlash =>
        let source := oldParent ++ [oldName]
        let target := newParent ++ [newName]
        match tree.node? source with
        | none => .error .notFound
        | some node =>
          if !node.isDirectory && (oldSlash || newSlash) then .error .notDirectory
          else if source = target then .ok tree
          else if source.isPrefixOf newParent then .error .invalidArgument
          else if target.isPrefixOf oldParent then .error .directoryNotEmpty
          else match tree.replaceFailure? node target with
            | some failure => .error failure
            | none => .ok ((tree.put source none).put target (some node))
      | _, _ => .error .busy

/-- Create a link. -/
def createLink (tree : FileTree) (path : Path) (target : String) : Except FileError FileTree :=
  match tree.resolveParent path with
  | .error failure => .error failure
  | .ok (_, .none) => .error .alreadyExists
  | .ok (parent, .name name slash) =>
    match tree.item? (parent ++ [name]) with
    | some _ => .error .alreadyExists
    | none =>
      if slash || target.isEmpty then .error .notFound
      else .ok (tree.put (parent ++ [name]) (some (.link target)))

/-- Remove what stands at a path with everything below it. -/
def removeAll (tree : FileTree) (path : Path) : Except FileError FileTree :=
  match tree.resolveParent path with
  | .error failure => .error failure
  | .ok (_, .none) => .error .invalidArgument
  | .ok (parent, .name name _) =>
    match tree.item? (parent ++ [name]) with
    | none => .error .notFound
    | some _ => .ok (tree.put (parent ++ [name]) none)

end TreeTypes.FileTree
