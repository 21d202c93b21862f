import TreeTypes.Grammar.Variant
import TreeTypes.Proofs.Text.Words

/-!
# The grammar of entries

An entry is a name, a colon and a list of fields that is blank or has commas between its fragments.
Blanks may stand around names, types and colons. `Variant.Spells` says which texts spell a variant
and `Variant.Violates` what the leftmost fault of any other text is; neither refers to how an entry
is read.
-/

namespace TreeTypes

open Text

namespace Identifier

/-- A letter of the ASCII alphabet. -/
def IsLetter (c : Char) : Prop := 'a' ≤ c ∧ c ≤ 'z' ∨ 'A' ≤ c ∧ c ≤ 'Z'

/-- A decimal digit. -/
def IsDigit (c : Char) : Prop := '0' ≤ c ∧ c ≤ '9'

/-- An identifier starts with a letter or an underscore and goes on with these and digits. -/
inductive Spells : List Char → Prop
  | intro {first : Char} {rest : List Char} : IsLetter first ∨ first = '_' →
      (∀ c ∈ rest, IsLetter c ∨ IsDigit c ∨ c = '_') → Spells (first :: rest)

end Identifier

namespace Field

/-- A fragment consists of a type and a name with blanks around and between them. -/
inductive Divides : (fragment type name : List Char) → Prop
  | intro {before type gap name behind : List Char} : Blank before → Solid type → Blank gap →
      gap ≠ [] → Solid name → Blank behind →
      Divides (before ++ type ++ gap ++ name ++ behind) type name

/-- A fragment spells a field. The hyphens of its type stand for commas. -/
inductive Spells : (fragment : List Char) → Field → Prop
  | intro {fragment type name : List Char} : Divides fragment type name → ',' ∉ type →
      Identifier.Spells name →
      Spells fragment ⟨String.ofList name,
        String.ofList (type.map fun c => if c = '-' then ',' else c)⟩

/-- What is wrong with a fragment behind fields of the given names. -/
inductive Offends (seen : List String) : (fragment : List Char) → Malformed → Prop
  | shape {fragment core : List Char} : (∀ type name, ¬ Divides fragment type name) →
      Trims fragment core → Offends seen fragment (.fieldShape (String.ofList core))
  | name {fragment type name : List Char} : Divides fragment type name →
      ¬ Identifier.Spells name →
      Offends seen fragment (.invalidIdentifier (String.ofList name))
  | repeated {fragment type name : List Char} : Divides fragment type name →
      Identifier.Spells name → String.ofList name ∈ seen →
      Offends seen fragment (.duplicateField (String.ofList name))

/-- A text spells a list of fields with distinct names. -/
inductive SpellsAll : (text : List Char) → List Field → Prop
  | none {text : List Char} : Blank text → SpellsAll text []
  | some {fragments : List (List Char)} {fields : List Field} : fragments ≠ [] →
      List.Forall₂ Spells fragments fields → (fields.map (·.name)).Nodup →
      SpellsAll ([','].intercalate fragments) fields

/-- A text that is not blank has an offending fragment, and the fragments before it spell fields. -/
inductive ViolatesAll : (text : List Char) → Malformed → Prop
  | intro {good others : List (List Char)} {fragment : List Char} {fields : List Field}
      {reason : Malformed} : (∀ piece ∈ good ++ fragment :: others, ',' ∉ piece) →
      ¬ Blank ([','].intercalate (good ++ fragment :: others)) →
      List.Forall₂ Spells good fields → (fields.map (·.name)).Nodup →
      Offends (fields.map (·.name)) fragment reason →
      ViolatesAll ([','].intercalate (good ++ fragment :: others)) reason

end Field

namespace Variant

/-- The text before the colon names a variant by an identifier that is no keyword. -/
inductive Names : (head name : List Char) → Prop
  | intro {before name behind : List Char} : Blank before → Identifier.Spells name →
      String.ofList name ∉ Identifier.keywords → Blank behind →
      Names (before ++ name ++ behind) name

/-- An entry spells a variant. -/
inductive Spells : (entry : List Char) → Variant → Prop
  | intro {head name text : List Char} {fields : List Field} : Names head name →
      Field.SpellsAll text fields → Spells (head ++ ':' :: text) ⟨String.ofList name, fields⟩

/-- The leftmost fault of an entry. -/
inductive Violates : (entry : List Char) → Malformed → Prop
  | separator {entry : List Char} : ':' ∉ entry → Violates entry .missingSeparator
  | unnamed {head text : List Char} : Blank head →
      Violates (head ++ ':' :: text) .emptyVariantName
  | name {head name text : List Char} : ':' ∉ head → Trims head name → name ≠ [] →
      ¬ (Identifier.Spells name ∧ String.ofList name ∉ Identifier.keywords) →
      Violates (head ++ ':' :: text) (.invalidIdentifier (String.ofList name))
  | fields {head name text : List Char} {reason : Malformed} : Names head name →
      Field.ViolatesAll text reason → Violates (head ++ ':' :: text) reason

end Variant

end TreeTypes
