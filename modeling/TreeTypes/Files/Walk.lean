import TreeTypes.Files.Error
import TreeTypes.Files.Tree
import TreeTypes.Path

/-!
# Following a path through a tree

A path is followed name by name from the directory in which it is read. Every name but the last must
lead to a directory; a link on the way is replaced by the names of its target, and at most 40 links
are followed. A path ends at a location that holds something, or at a name that is free in an
existing directory.

The directory in which paths are read is its own root: an absolute path starts there, and going up
from there stays there.
-/

namespace TreeTypes

/-- Where a path leads. -/
inductive Place where
  | found (location : Location)
  | vacant (parent : Location) (name : String)
  deriving DecidableEq, Repr

namespace Path

/-- The names of a path. -/
def names (path : Path) : List String :=
  path.pieces.filter (· != "")

/-- Whether the spelling ends in a slash. -/
def endsInSlash (path : Path) : Bool :=
  path.text.toList.getLast? == some '/'

/-- The names of a path that is to lead to an existing entry. A slash at the end asks for a
directory, as a dot does. -/
def lookupNames (path : Path) : List String :=
  if path.endsInSlash then path.names ++ ["."] else path.names

/-- The greatest number of bytes in a name. -/
def maxNameBytes : Nat := 255

/-- The number of bytes that a path must stay below. -/
def maxBytes : Nat := 4096

/-- The failure of a path that cannot be handed to the system. -/
def unusable? (path : Path) : Option FileError :=
  if path.text.toList.contains '\x00' then some .embeddedNul
  else if path.text.isEmpty then some .notFound
  else if maxBytes ≤ path.text.utf8ByteSize then some .nameTooLong
  else none

end Path

namespace FileTree

/-- What is done with a link at the end of a path. -/
inductive LastLink where
  | keep
  | follow
  /-- The link is followed to a file that is to be written, which a slash at the end forbids. -/
  | followToWrite
  deriving DecidableEq, Repr

/-- The names that lead to the directory in which a path ends. -/
def parentNames (path : Path) : List String :=
  path.names.dropLast ++ ["."]

/-- The failure of a path that leads to a directory and is to be written, unless the way there fails
already. -/
def refuseDirectory : Except FileError Place → Except FileError Place
  | .ok _ => .error .isDirectory
  | .error failure => .error failure

/-- Follow names from a directory. `jump` goes on from a directory when a link is met. -/
def walkWith (jump : Location → List String → Except FileError Place) (tree : FileTree)
    (lastLink : LastLink) : Location → List String → Except FileError Place
  | here, [] => .ok (.found here)
  | here, name :: rest =>
    if name = "." then walkWith jump tree lastLink here rest
    else if name = ".." then walkWith jump tree lastLink here.dropLast rest
    else if Path.maxNameBytes < name.utf8ByteSize then .error .nameTooLong
    else match tree.item? (here ++ [name]) with
      | none => if rest.isEmpty then .ok (.vacant here name) else .error .notFound
      | some .directory => walkWith jump tree lastLink (here ++ [name]) rest
      | some (.file _) | some (.special _) =>
        if rest.isEmpty then .ok (.found (here ++ [name])) else .error .notDirectory
      | some (.link target) =>
        let target : Path := ⟨target⟩
        let start := if target.isAbsolute then [] else here
        if rest.isEmpty && lastLink == .keep then .ok (.found (here ++ [name]))
        else if rest.isEmpty && lastLink == .followToWrite && target.endsInSlash then
          refuseDirectory (jump start (parentNames target))
        else jump start (target.lookupNames ++ rest)

/-- Follow names from a directory, passing a limited number of links. -/
def walk (tree : FileTree) (lastLink : LastLink) :
    (links : Nat) → Location → List String → Except FileError Place
  | 0 => walkWith (fun _ _ => .error .tooManyLinks) tree lastLink
  | links + 1 => walkWith (walk tree lastLink links) tree lastLink

/-- The number of links that are followed on the way of one path. -/
def maxLinks : Nat := 40

/-- Where a path leads. A link at its end is followed on demand. -/
def resolve (tree : FileTree) (followLast : Bool) (path : Path) : Except FileError Place :=
  match path.unusable? with
  | some failure => .error failure
  | none => walk tree (if followLast then .follow else .keep) maxLinks [] path.lookupNames

/-- Where a path leads whose file is to be written. -/
def resolveToWrite (tree : FileTree) (path : Path) : Except FileError Place :=
  match path.unusable? with
  | some failure => .error failure
  | none =>
    if path.endsInSlash then refuseDirectory (walk tree .follow maxLinks [] (parentNames path))
    else walk tree .followToWrite maxLinks [] path.names

/-- The name at the end of a path, as an operation that adds or removes entries takes it. -/
inductive LastName where
  /-- The path ends in a dot or two dots, or is the root. -/
  | none
  | name (text : String) (slash : Bool)
  deriving DecidableEq, Repr

/-- The directory in which the last name of a path lies, and that name. -/
def resolveParent (tree : FileTree) (path : Path) : Except FileError (Location × LastName) :=
  match path.unusable? with
  | some failure => .error failure
  | none =>
    match path.names.reverse with
    | [] => .ok ([], .none)
    | last :: before =>
      match walk tree .follow maxLinks [] (before.reverse ++ ["."]) with
      | .error failure => .error failure
      | .ok (.vacant ..) => .error .notFound
      | .ok (.found parent) =>
        if last = "." ∨ last = ".." then .ok (parent, .none)
        else if Path.maxNameBytes < last.utf8ByteSize then .error .nameTooLong
        else .ok (parent, .name last path.endsInSlash)

end FileTree

end TreeTypes
