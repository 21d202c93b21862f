import Mathlib.Data.List.Nodup
import TreeTypes.Proofs.Json.Reading
import TreeTypes.Proofs.Json.Writing

/-!
# Schema documents and their texts

Every text that spells a document of distinct families is read as that document. Of members with
one key a reader keeps only one, so no text is read as a document that names a family twice.
-/

namespace TreeTypes

namespace Json

section

variable {key : String} {value : Json} {members kept : List (String × Json)}

theorem insertMember_of_not_mem (h : key ∉ kept.map (·.1)) :
    insertMember key value kept = kept ++ [(key, value)] := by
  induction kept with
  | nil => rfl
  | cons member kept ih =>
    rw [List.map_cons, List.mem_cons, not_or] at h
    rw [insertMember, if_neg (Ne.symm h.1), ih h.2, List.cons_append]

theorem merged_cons (kept : List (String × Json)) (member : String × Json)
    (members : List (String × Json)) :
    merged kept (member :: members) = merged (insertMember member.1 member.2 kept) members :=
  rfl

/-- Members whose keys are new stand behind those that were kept before. -/
theorem merged_of_nodup (h : ((kept ++ members).map (·.1)).Nodup) :
    merged kept members = kept ++ members := by
  induction members generalizing kept with
  | nil => exact (List.append_nil kept).symm
  | cons member members ih =>
    have hnew : member.1 ∉ kept.map (·.1) := by
      rw [List.map_append, List.nodup_append] at h
      exact fun hkept => h.2.2 _ hkept _ List.mem_cons_self rfl
    rw [List.append_cons] at h
    rw [merged_cons, insertMember_of_not_mem hnew, ih h, ← List.append_cons]

theorem nodup_keys_merged (h : (kept.map (·.1)).Nodup) (members : List (String × Json)) :
    ((merged kept members).map (·.1)).Nodup := by
  induction members generalizing kept with
  | nil => exact h
  | cons member members ih => exact ih (nodup_keys_insertMember member.1 member.2 kept h)

end

/-- The keys of a value that is an object are pairwise distinct. -/
def DistinctKeys : Json → Prop
  | .object members => (members.map (·.1)).Nodup
  | _ => True

variable {cs rest : List Char} {json : Json} {depth : Nat}

theorem exists_of_map_eq_ok {ε α β : Type} {x : Except ε α} {f : α → β} {b : β}
    (h : x.map f = .ok b) : ∃ a, x = .ok a ∧ f a = b := by
  cases x with
  | error => cases h
  | ok a => exact ⟨a, rfl, Except.ok.inj h⟩

theorem exists_of_bind_eq_ok {ε α β : Type} {x : Except ε α} {f : α → Except ε β} {b : β}
    (h : (x >>= f) = .ok b) : ∃ a, x = .ok a ∧ f a = .ok b := by
  cases x with
  | error => cases h
  | ok a => exact ⟨a, rfl, h⟩

theorem exists_of_mapError_eq_ok {ε ε' α : Type} {x : Except ε α} {f : ε → ε'} {a : α}
    (h : x.mapError f = .ok a) : x = .ok a := by
  cases x with
  | error => cases h
  | ok => exact congrArg Except.ok (Except.ok.inj h)

theorem value_of_word {meaning : Json} {letters : List Char}
    (h : word meaning letters cs = .ok (json, rest)) : json = meaning := by
  induction letters generalizing cs with
  | nil => exact (congrArg Prod.fst (Except.ok.inj h)).symm
  | cons letter letters ih =>
    cases cs with
    | nil => cases h
    | cons c cs =>
      rw [word] at h
      split at h
      · exact ih h
      · cases h

theorem distinctKeys_of_readValue (h : readValue depth cs = .ok (json, rest)) :
    json.DistinctKeys := by
  rw [readValue] at h
  split at h
  case h_1 => cases h
  case h_2 =>
    split_ifs at h
    · exact value_of_word h ▸ trivial
    · exact value_of_word h ▸ trivial
    · exact value_of_word h ▸ trivial
    · obtain ⟨_, -, hnumber⟩ := exists_of_map_eq_ok h
      cases hnumber
      trivial
    · obtain ⟨_, -, hstring⟩ := exists_of_map_eq_ok h
      cases hstring
      trivial
    · cases depth with
      | zero => cases h
      | succ depth =>
        obtain ⟨_, -, harray⟩ := exists_of_map_eq_ok h
        cases harray
        trivial
    · cases depth with
      | zero => cases h
      | succ depth =>
        obtain ⟨⟨members, _⟩, -, hobject⟩ := exists_of_map_eq_ok h
        cases hobject
        exact nodup_keys_merged (by exact List.nodup_nil) members
    · cases h

theorem distinctKeys_of_read (h : read cs = .ok json) : json.DistinctKeys := by
  obtain ⟨⟨value, rest⟩, hvalue, hend⟩ := exists_of_bind_eq_ok (exists_of_mapError_eq_ok h)
  dsimp only at hend
  split at hend
  case h_1 =>
    cases hend
    exact distinctKeys_of_readValue hvalue
  case h_2 => cases hend

/-- A text is read as what it spells between gaps. -/
theorem Reads.read {α : Type} {Spells : α → List Char → Prop} {meaning : α → Json} {item : α}
    {before spelled behind : List Char} (h : Reads (readValue maxDepth) meaning Spells)
    (hbefore : Gap before) (hitem : Spells item spelled) (hbehind : Gap behind) :
    read (before ++ spelled ++ behind) = .ok (meaning item) := by
  have hend : skipGap behind = [] := by simpa [skipGap] using hbehind.skipGap_append []
  simp only [Json.read, h hbefore hitem behind, bind, Except.bind, hend]
  rfl

end Json

namespace Schema

variable {schema : Schema} {cs : List Char}

theorem entriesOf_strings (name : String) (entries : List String) :
    entriesOf name (entries.map .string) = .ok entries := by
  induction entries with
  | nil => rfl
  | cons entry entries ih =>
    rw [List.map_cons, entriesOf, ih]
    rfl

theorem familiesOf_meanings (families : List RawFamily) :
    familiesOf (Json.meanings (fun entries => .array (entries.map .string))
      (families.map fun family => (family.name, family.entries))) = .ok families := by
  induction families with
  | nil => rfl
  | cons family families ih =>
    rw [Json.meanings] at ih
    simp only [Json.meanings, List.map_cons, familiesOf, entriesOf_strings, ih, bind, Except.bind]
    rfl

theorem ofJson_toJson (schema : Schema) : ofJson schema.toJson = .ok schema := by
  rw [toJson, ofJson, members, familiesOf_meanings]
  rfl

theorem names_of_familiesOf {members : List (String × Json)} {families : List RawFamily}
    (h : familiesOf members = .ok families) : families.map (·.name) = members.map (·.1) := by
  fun_induction familiesOf members generalizing families with
  | case1 =>
    cases h
    rfl
  | case2 name elements rest ih =>
    obtain ⟨entries, -, h⟩ := Json.exists_of_bind_eq_ok h
    obtain ⟨others, hothers, h⟩ := Json.exists_of_bind_eq_ok h
    cases h
    rw [List.map_cons, List.map_cons, ih hothers]
  | case3 => cases h

/-- The keys of a value are the families of its document. -/
theorem nodup_of_ofJson {json : Json} (hkeys : json.DistinctKeys) (h : ofJson json = .ok schema) :
    schema.familyNames.Nodup := by
  cases json with
  | object members =>
    obtain ⟨families, hfamilies, rfl⟩ := Json.exists_of_map_eq_ok h
    rwa [familyNames, names_of_familiesOf hfamilies]
  | _ => cases h

theorem Spells.read (h : Spells schema cs) (hdistinct : schema.familyNames.Nodup) :
    Json.read cs = .ok schema.toJson := by
  have hentries := Json.readsQuoted_string (Json.reads_string 125)
  have hreads := Json.reads_object (Json.reads_array hentries)
  cases h with
  | intro hbefore hobject hbehind =>
    rw [hreads.read hbefore hobject hbehind, Json.merged_of_nodup, List.nil_append, toJson]
    simpa [Json.meanings, Function.comp_def, members, familyNames] using hdistinct

theorem parse_spelled {origin text : String} (h : Spells schema text.toList)
    (hdistinct : schema.familyNames.Nodup) :
    parse origin text = .ok schema := by
  rw [parse, ofText, h.read hdistinct]
  simp only [ofJson_toJson]
  rfl

theorem nodup_of_parse {origin text : String} (h : parse origin text = .ok schema) :
    schema.familyNames.Nodup := by
  have htext := Json.exists_of_mapError_eq_ok h
  rw [ofText] at htext
  split at htext
  case h_1 => cases htext
  case h_2 hread => exact nodup_of_ofJson (Json.distinctKeys_of_read hread) htext

/-- A document of distinct families has a text, every text of it is read as it, and every text that
is read at all gives a document of distinct families. -/
theorem documents_decode (origin : String) :
    (∀ schema : Schema, schema.familyNames.Nodup → Spells schema schema.text.toList ∧
      ∀ text : String, Spells schema text.toList → parse origin text = .ok schema) ∧
    ∀ (text : String) (schema : Schema), parse origin text = .ok schema →
      schema.familyNames.Nodup :=
  ⟨fun schema hdistinct => ⟨spells_text schema, fun _ hspells => parse_spelled hspells hdistinct⟩,
    fun _ _ hparse => nodup_of_parse hparse⟩

/-- Two families, one of them without entries. -/
def clefs : Schema := ⟨[⟨"Sign", ["Lit", "𝄞"]⟩, ⟨"Rest", []⟩]⟩

/-- A text of `clefs` with gaps between its tokens and with an escape of two surrogates. -/
def clefsText : String :=
  "\n\x7b \"Sign\" : [\"Lit\",\t\"\\uD834\\udd1e\"],\"Rest\":[ ]\x7d"

theorem spells_clefsText : Spells clefs clefsText.toList := by
  have hgap : ∀ c ∈ [' ', '\n', '\t'], Json.Gap [c] := by simp [Json.Gap]
  have hleading : Json.SpellsCode 0xD834 ['D', '8', '3', '4'] :=
    .intro (a := 13) (b := 8) (c := 3) (d := 4) ⟨by decide, by decide⟩ ⟨by decide, by decide⟩
      ⟨by decide, by decide⟩ ⟨by decide, by decide⟩
  have htrailing : Json.SpellsCode 0xDD1E ['d', 'd', '1', 'e'] :=
    .intro (a := 13) (b := 13) (c := 1) (d := 14) ⟨by decide, by decide⟩ ⟨by decide, by decide⟩
      ⟨by decide, by decide⟩ ⟨by decide, by decide⟩
  have hclef : Json.SpellsString "𝄞" _ :=
    .intro (.cons (.pair (c := '𝄞') (by decide) hleading htrailing) .nil)
  have hentries : Json.SpellsArray Json.SpellsString ["Lit", "𝄞"] _ :=
    .intro (.cons .nil (Json.spellsString_write "Lit")
      (.cons .nil (hgap '\t' (by decide)) hclef (.nil .nil)))
  have hsign : Json.SpellsMember (Json.SpellsArray Json.SpellsString) ("Sign", ["Lit", "𝄞"]) _ :=
    .intro (Json.spellsString_write "Sign") (hgap ' ' (by decide)) (hgap ' ' (by decide)) hentries
  have hrest : Json.SpellsMember (Json.SpellsArray Json.SpellsString) ("Rest", []) _ :=
    .intro (Json.spellsString_write "Rest") .nil .nil (.intro (.nil (hgap ' ' (by decide))))
  have hobject : Json.SpellsObject (Json.SpellsArray Json.SpellsString) clefs.members _ :=
    .intro (.cons (hgap ' ' (by decide)) hsign (.cons .nil .nil hrest (.nil .nil)))
  exact Spells.intro (hgap '\n' (by decide)) hobject .nil

/-- A text that names a family twice. -/
def repeatedText : String := "\x7b\"Rest\":[\"a\"],\"Sign\":[],\"Rest\":[\"b\"]\x7d"

theorem clefs_decoded :
    Spells clefs clefsText.toList ∧ parse "clefs.json" clefsText = .ok clefs ∧
      parse "rests.json" repeatedText = .ok ⟨[⟨"Rest", ["b"]⟩, ⟨"Sign", []⟩]⟩ ∧
      (Schema.mk [⟨"Rest", ["b"]⟩, ⟨"Sign", []⟩]).familyNames.Nodup := by
  have hclefs := ((documents_decode "clefs.json").1 clefs (by decide)).2 clefsText spells_clefsText
  have hrepeated : parse "rests.json" repeatedText = .ok ⟨[⟨"Rest", ["b"]⟩, ⟨"Sign", []⟩]⟩ := by
    decide +kernel
  exact ⟨spells_clefsText, hclefs, hrepeated, (documents_decode "rests.json").2 _ _ hrepeated⟩

end Schema

end TreeTypes
