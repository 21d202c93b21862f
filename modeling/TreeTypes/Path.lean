import TreeTypes.Text.Split

/-!
# Paths

A path is kept as it is spelled and is never normalised. Two spellings are the same path when they
have the same components: repeated slashes, a slash at the end and a dot inside do not count, a dot
at the front does. Joining, the parent and the siblings of a path work on the spelling, so that what
they give is again spelled as its parts are.
-/

namespace TreeTypes

/-- A path as it is spelled. -/
structure Path where
  text : String
  deriving DecidableEq, Repr

namespace Path

/-- One step of a path. -/
inductive Component where
  | root
  | here
  | up
  | name (text : String)
  deriving DecidableEq, Repr

/-- The pieces of the spelling between slashes. -/
def pieces (path : Path) : List String :=
  (Text.split '/' path.text.toList).map String.ofList

/-- Whether a piece is skipped: it is empty or a dot. -/
def isSkipped (piece : String) : Bool :=
  piece == "" || piece == "."

/-- The component that a piece stands for. -/
def componentOf (piece : String) : Component :=
  if piece = ".." then .up else .name piece

/-- Whether a path starts at the root. -/
def isAbsolute (path : Path) : Bool :=
  path.text.toList.head? == some '/'

/-- The components of a path. -/
def components (path : Path) : List Component :=
  let front :=
    if path.isAbsolute then [.root] else if path.pieces.head? = some "." then [.here] else []
  front ++ (path.pieces.filter (!isSkipped ·)).map componentOf

/-- Whether two spellings are the same path. -/
def Same (p q : Path) : Prop := p.components = q.components

instance (p q : Path) : Decidable (Same p q) :=
  inferInstanceAs (Decidable (p.components = q.components))

theorem Same.refl (p : Path) : Same p p := rfl

theorem Same.symm {p q : Path} (h : Same p q) : Same q p := Eq.symm h

theorem Same.trans {p q r : Path} (h : Same p q) (h' : Same q r) : Same p r := Eq.trans h h'

/-- A path read from a directory. An absolute path stays as it is. -/
def join (base path : Path) : Path :=
  if path.isAbsolute then path
  else if base.text.isEmpty || base.text.toList.getLast? == some '/' then
    ⟨base.text ++ path.text⟩
  else ⟨base.text ++ "/" ++ path.text⟩

/-- The part of the spelling that `parent?` never shortens, and the pieces behind it. -/
def front (path : Path) : String × List String :=
  match path.text.toList with
  | '/' :: rest => ("/", (Text.split '/' rest).map String.ofList)
  | ['.'] => (".", [])
  | '.' :: '/' :: rest => (".", ("" : String) :: (Text.split '/' rest).map String.ofList)
  | cs => ("", (Text.split '/' cs).map String.ofList)

/-- The spellings that end in a component, from the longest to the shortest. The pieces are given
with the last one first. -/
def lineageOf (start : String) : (reversed : List String) → List Path
  | [] => []
  | piece :: rest =>
    if isSkipped piece then lineageOf start rest
    else ⟨start ++ String.intercalate "/" (piece :: rest).reverse⟩ :: lineageOf start rest

/-- The path, its parent and so on up to its first component behind the front. -/
def lineage (path : Path) : List Path :=
  let (start, pieces) := path.front
  lineageOf start pieces.reverse

/-- The path without its last component. The root and the empty path have none. -/
def parent? (path : Path) : Option Path :=
  match path.lineage with
  | _ :: parent :: _ => some parent
  | [_] => some ⟨path.front.1⟩
  | [] => if path.front.1 = "." then some ⟨""⟩ else none

/-- The path with a suffix behind a dot, which lies in the same directory. -/
def sibling (path : Path) (suffix : String) : Path :=
  ⟨path.text ++ "." ++ suffix⟩

end Path

end TreeTypes
