import Mathlib.Tactic.SplitIfs
import TreeTypes.Proofs.Json.Spelling
import TreeTypes.Proofs.Text.Pieces
import TreeTypes.Json.Writer

/-!
# Written documents

The text that the writer gives for a document spells it, so every document has a text.
-/

namespace TreeTypes

namespace Json

theorem spellsDigit_digitChar {value : Nat} (h : value < 16) :
    SpellsDigit value (Nat.digitChar value) :=
  ⟨h, .inl rfl⟩

theorem spellsCode_hexPair {code : Nat} (h : code < 256) :
    SpellsCode code ('0' :: '0' :: hexPair code) := by
  have hzero : SpellsDigit 0 '0' := spellsDigit_digitChar (by decide)
  have hhigh : SpellsDigit (code / 16) _ := spellsDigit_digitChar (by omega)
  have hlow : SpellsDigit (code % 16) _ := spellsDigit_digitChar (by omega)
  have hcode : ((0 * 16 + 0) * 16 + code / 16) * 16 + code % 16 = code := by omega
  simpa only [hexPair, hcode] using SpellsCode.intro hzero hzero hhigh hlow

theorem spellsChar_writeChar (c : Char) : SpellsChar c (writeChar c) := by
  unfold writeChar
  split_ifs with hquote hescape hcontrol
  · subst hquote
    exact .short (by decide)
  · subst hescape
    exact .short (by decide)
  · exact .code (spellsCode_hexPair (by omega))
  · exact .plain hquote hescape (Nat.le_of_not_lt hcontrol)

theorem spellsChars_flatMap (cs : List Char) : SpellsChars cs (cs.flatMap writeChar) := by
  induction cs with
  | nil => exact .nil
  | cons c cs ih => exact .cons (spellsChar_writeChar c) ih

theorem spellsString_write (text : String) :
    SpellsString text (write (.string text)).toList := by
  simpa [write, writeString] using SpellsString.intro (spellsChars_flatMap text.toList)

theorem toList_intercalate_cons (first : String) (others : List String) :
    (String.intercalate "," (first :: others)).toList =
      first.toList ++ others.flatMap fun text => ',' :: text.toList := by
  have hcomma : ("," : String).toList = [','] := rfl
  rw [String.toList_intercalate, hcomma, List.map_cons, Text.intercalate_cons, List.flatMap_map]

theorem writeElements_eq_map (elements : List Json) :
    writeElements elements = elements.map write := by
  induction elements with
  | nil => rfl
  | cons element elements ih => rw [writeElements, ih, List.map_cons]

theorem writeMembers_eq_map (members : List (String × Json)) : writeMembers members =
    members.map fun member => writeString member.1 ++ ":" ++ write member.2 := by
  induction members with
  | nil => rfl
  | cons member members ih => rw [writeMembers, ih, List.map_cons]

section

variable {α : Type} {Spells : α → List Char → Prop} {written : α → String} {meaning : α → Json}

theorem spellsLater_flatMap (h : ∀ item, Spells item (written item).toList) (items : List α) :
    SpellsLater Spells items ((items.map written).flatMap fun text => ',' :: text.toList) := by
  induction items with
  | nil => exact .nil .nil
  | cons item items ih => exact .cons .nil .nil (h item) ih

theorem spellsItems_intercalate (h : ∀ item, Spells item (written item).toList) (items : List α) :
    SpellsItems Spells items (String.intercalate "," (items.map written)).toList := by
  cases items with
  | nil => exact .nil .nil
  | cons item items =>
    rw [List.map_cons, toList_intercalate_cons]
    exact .cons .nil (h item) (spellsLater_flatMap h items)

theorem spellsArray_write (h : ∀ item, Spells item (write (meaning item)).toList)
    (items : List α) : SpellsArray Spells items (write (.array (items.map meaning))).toList := by
  have hitems := spellsItems_intercalate h items
  simpa [write, writeElements_eq_map, Function.comp_def] using SpellsArray.intro hitems

theorem spellsMember_write (h : ∀ item, Spells item (write (meaning item)).toList)
    (member : String × α) : SpellsMember Spells member
      (writeString member.1 ++ ":" ++ write (meaning member.2)).toList := by
  have hmember := SpellsMember.intro (spellsString_write member.1) .nil .nil (h member.2)
  simpa [write] using hmember

theorem spellsObject_write (h : ∀ item, Spells item (write (meaning item)).toList)
    (members : List (String × α)) :
    SpellsObject Spells members (write (.object (meanings meaning members))).toList := by
  have hitems := spellsItems_intercalate (spellsMember_write h) members
  simpa [write, writeMembers_eq_map, meanings, Function.comp_def] using SpellsObject.intro hitems

end

end Json

namespace Schema

/-- The value that a document is written as. -/
def toJson (schema : Schema) : Json :=
  .object (Json.meanings (fun entries => .array (entries.map .string)) schema.members)

/-- The text of a document on one line. -/
def text (schema : Schema) : String := schema.toJson.write

theorem spells_text (schema : Schema) : Spells schema schema.text.toList := by
  have hobject := Json.spellsObject_write (Json.spellsArray_write Json.spellsString_write)
    schema.members
  simpa [text, toJson] using Spells.intro .nil hobject .nil

end Schema

end TreeTypes
