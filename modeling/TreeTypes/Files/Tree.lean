/-!
# Directory trees

The files below one directory form a tree whose leaves are regular files, symbolic links and
special files. A location is the list of names that leads to a node from the top. Every operation
changes the node at one location; `item?` shows what stands at a location without what lies below
it.
-/

namespace TreeTypes

/-- A file, a link or a directory with everything below it. -/
inductive Node where
  | file (content : ByteArray)
  | link (target : String)
  /-- A device. It gives the same bytes to everyone who reads it and keeps nothing that is written
  to it. -/
  | special (content : ByteArray)
  | directory (entries : List (String × Node))

/-- The names that lead to a node. -/
abbrev Location := List String

/-- What stands at a location. -/
inductive Item where
  | file (content : ByteArray)
  | link (target : String)
  | special (content : ByteArray)
  | directory

/-- What a listing shows of a location. -/
inductive Entry where
  | file (content : ByteArray)
  | link (target : String)
  | directory

namespace Node

/-- Whether a node is a directory. -/
def isDirectory : Node → Bool
  | .directory _ => true
  | .file _ | .link _ | .special _ => false

/-- A node without what lies below it. -/
def item : Node → Item
  | file content => .file content
  | link target => .link target
  | special content => .special content
  | directory _ => .directory

end Node

/-- The entries of a directory with one name set to a node or removed. -/
def setEntry (entries : List (String × Node)) (name : String) : Option Node → List (String × Node)
  | some node => (name, node) :: entries.filter (·.1 != name)
  | none => entries.filter (·.1 != name)

/-- The node below a directory. -/
def nodeBelow : List (String × Node) → Location → Option Node
  | entries, [] => some (.directory entries)
  | entries, name :: rest =>
    match entries.lookup name with
    | some (.directory inner) => nodeBelow inner rest
    | some node => if rest = [] then some node else none
    | none => none

/-- Set the node at a location below a directory, or remove it. Nothing happens where the parent of
the location is no directory. -/
def putBelow (node : Option Node) : List (String × Node) → Location → List (String × Node)
  | entries, [] => entries
  | entries, [name] => setEntry entries name node
  | entries, name :: rest =>
    match entries.lookup name with
    | some (.directory inner) =>
      setEntry entries name (some (.directory (putBelow node inner rest)))
    | _ => entries

/-- The files below the directory in which paths are read. -/
structure FileTree where
  entries : List (String × Node) := []

namespace FileTree

/-- A tree without files. -/
def empty : FileTree := {}

/-- The node at a location. -/
def node? (tree : FileTree) (location : Location) : Option Node :=
  nodeBelow tree.entries location

/-- What stands at a location. -/
def item? (tree : FileTree) (location : Location) : Option Item :=
  (tree.node? location).map Node.item

/-- Set or remove the node at a location. -/
def put (tree : FileTree) (location : Location) (node : Option Node) : FileTree :=
  ⟨putBelow node tree.entries location⟩

end FileTree

mutual

/-- What stands at a location and at every location below it, special files apart. -/
def Node.listing (location : Location) : Node → List (Location × Entry)
  | .file content => [(location, .file content)]
  | .link target => [(location, .link target)]
  | .special _ => []
  | .directory entries => (location, .directory) :: listingBelow location entries

/-- What stands at every location below a directory, special files apart. -/
def listingBelow (location : Location) : List (String × Node) → List (Location × Entry)
  | [] => []
  | (name, node) :: rest => node.listing (location ++ [name]) ++ listingBelow location rest

end

/-- The files, links and directories of a tree with their paths, in the byte order of the paths. -/
def FileTree.listing (tree : FileTree) : List (String × Entry) :=
  ((listingBelow [] tree.entries).map fun (location, entry) =>
    (String.intercalate "/" location, entry)).mergeSort fun a b => !decide (b.1 < a.1)

@[simp] theorem lookup_setEntry_self (entries : List (String × Node)) (name : String)
    (node : Option Node) : (setEntry entries name node).lookup name = node := by
  cases node with
  | some node => simp [setEntry]
  | none =>
    simp only [setEntry]
    induction entries with
    | nil => rfl
    | cons e rest ih =>
      obtain ⟨k, n⟩ := e
      by_cases h : k = name
      · simpa [h] using ih
      · have h' : (name == k) = false := by simp [Ne.symm h]
        simp [h, List.lookup_cons, h', ih]

theorem lookup_setEntry_of_ne (entries : List (String × Node)) {name other : String}
    (h : other ≠ name) (node : Option Node) :
    (setEntry entries name node).lookup other = entries.lookup other := by
  have hon : (other == name) = false := by simp [h]
  have hf : (entries.filter (·.1 != name)).lookup other = entries.lookup other := by
    induction entries with
    | nil => rfl
    | cons e rest ih =>
      obtain ⟨k, n⟩ := e
      by_cases hk : k = name
      · subst hk; simp [List.lookup_cons, hon, ih]
      · by_cases ho : other = k
        · simp [← ho, h]
        · have hok : (other == k) = false := by simp [ho]
          simp [hk, List.lookup_cons, hok, ih]
  cases node <;> simp [setEntry, List.lookup_cons, hon, hf]

end TreeTypes
