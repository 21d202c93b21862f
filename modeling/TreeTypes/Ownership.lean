/-!
# Ownership of nodes

A node refers to other nodes through a handle. The policy says whether that handle is shared or
owning, and whether a constructor hands out the node itself or a handle to it; the shared policies
also choose how references are counted.
-/

namespace TreeTypes

/-- How fields hold other nodes and what constructors return. -/
inductive Policy where
  /-- Fields hold shared handles and constructors return a shared handle. -/
  | shared
  /-- Fields hold shared handles and constructors return the union itself. -/
  | value
  /-- Fields own boxed trait objects. -/
  | owned
  deriving DecidableEq, Repr, Inhabited

namespace Policy

/-- The name of a policy in configurations and reports. -/
def name : Policy → String
  | shared => "shared"
  | value => "value"
  | owned => "owned"

/-- Every policy. -/
def all : List Policy := [shared, value, owned]

/-- Whether references are held by the shared handle. -/
def usesSharedHandle : Policy → Bool
  | shared | value => true
  | owned => false

end Policy

/-- How a shared handle counts its references. -/
inductive SharedHandle where
  /-- Counted within one thread. -/
  | rc
  /-- Counted across threads. -/
  | arc
  deriving DecidableEq, Repr, Inhabited

namespace SharedHandle

/-- The name of a handle in configurations. -/
def name : SharedHandle → String
  | rc => "rc"
  | arc => "arc"

/-- Every handle. -/
def all : List SharedHandle := [rc, arc]

/-- The type constructor of a handle. -/
def typeName : SharedHandle → String
  | rc => "Rc"
  | arc => "Arc"

/-- The line that brings a handle into scope. -/
def importLine : SharedHandle → String
  | rc => "use std::rc::Rc;"
  | arc => "use std::sync::Arc;"

/-- A type held by the handle. -/
def wrap (handle : SharedHandle) (inner : String) : String :=
  handle.typeName ++ "<" ++ inner ++ ">"

end SharedHandle

end TreeTypes
