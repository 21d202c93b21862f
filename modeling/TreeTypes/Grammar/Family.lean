import TreeTypes.Grammar.Variant

/-!
# Families

A family is a named group of variants that form one union type. Every variant gives a constructor
function, and two variants must not give the same one: that is either a variant declared twice or a
clash of two names that become equal (`IoStmt` and `Io_stmt`).
-/

namespace TreeTypes

/-- A named group of variants, in the order of the schema. -/
structure Family where
  name : String
  variants : List Variant
  deriving DecidableEq, Repr

namespace Family

/-- The first variant of that name. -/
def variant? (family : Family) (name : String) : Option Variant :=
  family.variants.find? (·.name == name)

/-- The constructor name of each variant, in order. -/
def constructors (family : Family) : List String :=
  family.variants.map fun variant => Identifier.constructorName variant.name

/-- The reason why `later` cannot join the variants `earlier`. -/
def clash? (earlier : List Variant) (later : Variant) : Option Malformed :=
  let constructor := Identifier.constructorName later.name
  match earlier.find? (Identifier.constructorName ·.name == constructor) with
  | none => none
  | some first =>
    if first.name = later.name then some (.duplicateVariant later.name)
    else some (.constructorClash constructor first.name later.name)

/-- Read entries in order. `earlier` holds the variants before them. -/
def parseVariants (earlier : List Variant) : List String → Except Rejection (List Variant)
  | [] => .ok []
  | entry :: rest => do
    let variant ← Variant.parse entry
    match clash? earlier variant with
    | some reason => throw ⟨entry, reason⟩
    | none =>
      let variants ← parseVariants (earlier ++ [variant]) rest
      return variant :: variants

/-- Read the entries of a family. -/
def parse (name : String) (entries : List String) : Except Rejection Family :=
  (parseVariants [] entries).map fun variants => ⟨name, variants⟩

end Family

end TreeTypes
