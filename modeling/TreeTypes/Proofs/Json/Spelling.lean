import TreeTypes.Schema

/-!
# Texts of schema documents

How a JSON text may spell a document: gaps of any length stand between the tokens, and a character
of a string stands for itself or is escaped by a letter, by the digits of its number or by the
digits of two surrogates. Nothing here refers to how a text is read.
-/

namespace TreeTypes

namespace Json

/-- Nothing but white space of the format. -/
def Gap (cs : List Char) : Prop := ∀ c ∈ cs, c = ' ' ∨ c = '\n' ∨ c = '\t' ∨ c = '\r'

theorem Gap.nil : Gap [] := by simp [Gap]

/-- A hexadecimal digit in either case. -/
def SpellsDigit (value : Nat) (digit : Char) : Prop :=
  value < 16 ∧ (digit = Nat.digitChar value ∨ digit = (Nat.digitChar value).toUpper)

/-- Four hexadecimal digits. -/
inductive SpellsCode : Nat → List Char → Prop
  | intro {a b c d : Nat} {first second third fourth : Char} : SpellsDigit a first →
      SpellsDigit b second → SpellsDigit c third → SpellsDigit d fourth →
      SpellsCode (((a * 16 + b) * 16 + c) * 16 + d) [first, second, third, fourth]

/-- The characters that have a letter behind the backslash. -/
def shortEscapes : List (Char × Char) := [
  ('"', '"'), ('\\', '\\'), ('/', '/'), ('\x08', 'b'), ('\x0c', 'f'), ('\n', 'n'), ('\r', 'r'),
  ('\t', 't')]

/-- A character beyond the basic plane as its leading and its trailing surrogate. -/
def surrogates (code : Nat) : Nat × Nat :=
  (0xD800 + (code - 0x10000) / 0x400, 0xDC00 + (code - 0x10000) % 0x400)

/-- A character as it may stand between quotes. -/
inductive SpellsChar : Char → List Char → Prop
  | plain {c : Char} : c ≠ '"' → c ≠ '\\' → 0x20 ≤ c.toNat → SpellsChar c [c]
  | short {c letter : Char} : (c, letter) ∈ shortEscapes → SpellsChar c ['\\', letter]
  | code {c : Char} {digits : List Char} : SpellsCode c.toNat digits →
      SpellsChar c ('\\' :: 'u' :: digits)
  | pair {c : Char} {leading trailing : List Char} : 0x10000 ≤ c.toNat →
      SpellsCode (surrogates c.toNat).1 leading → SpellsCode (surrogates c.toNat).2 trailing →
      SpellsChar c ('\\' :: 'u' :: leading ++ '\\' :: 'u' :: trailing)

/-- Characters one after the other. -/
inductive SpellsChars : List Char → List Char → Prop
  | nil : SpellsChars [] []
  | cons {c : Char} {cs spelled others : List Char} : SpellsChar c spelled →
      SpellsChars cs others → SpellsChars (c :: cs) (spelled ++ others)

/-- A string between quotes. -/
inductive SpellsString : String → List Char → Prop
  | intro {text : String} {body : List Char} : SpellsChars text.toList body →
      SpellsString text ('"' :: body ++ ['"'])

section

variable {α : Type} (Spells : α → List Char → Prop)

/-- The items of a container behind its first one, up to the closing bracket. -/
inductive SpellsLater : List α → List Char → Prop
  | nil {gap : List Char} : Gap gap → SpellsLater [] gap
  | cons {before behind spelled others : List Char} {item : α} {items : List α} : Gap before →
      Gap behind → Spells item spelled → SpellsLater items others →
      SpellsLater (item :: items) (before ++ ',' :: behind ++ spelled ++ others)

/-- The items of a container between its brackets. -/
inductive SpellsItems : List α → List Char → Prop
  | nil {gap : List Char} : Gap gap → SpellsItems [] gap
  | cons {before spelled others : List Char} {item : α} {items : List α} : Gap before →
      Spells item spelled → SpellsLater Spells items others →
      SpellsItems (item :: items) (before ++ spelled ++ others)

/-- An array of items. -/
inductive SpellsArray : List α → List Char → Prop
  | intro {items : List α} {body : List Char} : SpellsItems Spells items body →
      SpellsArray items ('[' :: body ++ [']'])

/-- A key and its value. -/
inductive SpellsMember : String × α → List Char → Prop
  | intro {key : String} {value : α} {spelled before behind other : List Char} :
      SpellsString key spelled → Gap before → Gap behind → Spells value other →
      SpellsMember (key, value) (spelled ++ before ++ ':' :: behind ++ other)

/-- An object of members. -/
inductive SpellsObject : List (String × α) → List Char → Prop
  | intro {members : List (String × α)} {body : List Char} :
      SpellsItems (SpellsMember Spells) members body →
      SpellsObject members ('\x7b' :: body ++ ['\x7d'])

/-- The members of an object with the meanings of their values. -/
def meanings {β : Type} (meaning : α → β) (members : List (String × α)) : List (String × β) :=
  members.map fun member => (member.1, meaning member.2)

end

end Json

namespace Schema

/-- The names of the families with their entries. -/
def members (schema : Schema) : List (String × List String) :=
  schema.families.map fun family => (family.name, family.entries)

/-- A text of a document: an object of arrays of strings, in the order of the families. -/
inductive Spells : Schema → List Char → Prop
  | intro {schema : Schema} {before object behind : List Char} : Json.Gap before →
      Json.SpellsObject (Json.SpellsArray Json.SpellsString) schema.members object →
      Json.Gap behind → Spells schema (before ++ object ++ behind)

end Schema

end TreeTypes
