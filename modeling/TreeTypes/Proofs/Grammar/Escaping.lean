import Mathlib.Data.List.Nodup
import TreeTypes.Proofs.Grammar.Reading
import TreeTypes.Proofs.Resolution
import TreeTypes.Source.Layout

/-!
# Names as identifiers

The names of an accepted entry go into the generated source with their keywords escaped. Escaping
makes every name a legal identifier but the single underscore, which is spelled like one and is
none. It keeps two names apart unless one of them is a keyword without raw form and the other is
this keyword with an underscore behind it.
-/

namespace TreeTypes

open Text

namespace Identifier

/-- The keywords that have a meaning. -/
def strictKeywords : List String := [
  "as", "async", "await", "break", "const", "continue", "crate", "dyn", "else", "enum", "extern",
  "false", "fn", "for", "if", "impl", "in", "let", "loop", "match", "mod", "move", "mut", "pub",
  "ref", "return", "self", "Self", "static", "struct", "super", "trait", "true", "type", "unsafe",
  "use", "where", "while"]

/-- The keywords that are set aside. -/
def reservedKeywords : List String := [
  "abstract", "become", "box", "do", "final", "macro", "override", "priv", "try", "typeof",
  "unsized", "virtual", "yield"]

/-- An identifier of the generated language: plain, or a keyword in its raw form. -/
inductive Legal : String → Prop
  | plain {name : String} : Spells name.toList → name ∉ strictKeywords → name ∉ reservedKeywords →
      name ≠ "_" → Legal name
  | raw {name keyword : String} : keyword ∈ strictKeywords ∨ keyword ∈ reservedKeywords →
      keyword ∉ ["crate", "self", "super", "Self"] → name = "r#" ++ keyword → Legal name

variable {name other : String} {names : List String}

theorem mem_keywords_iff : name ∈ keywords ↔ name ∈ strictKeywords ∨ name ∈ reservedKeywords := by
  have hperm : keywords.Perm (strictKeywords ++ reservedKeywords) := by decide +kernel
  rw [hperm.mem_iff, List.mem_append]

theorem legal_of_not_keyword (h : Spells name.toList) (hkeyword : name ∉ keywords)
    (hname : name ≠ "_") : Legal name := by
  rw [mem_keywords_iff, not_or] at hkeyword
  exact .plain h hkeyword.1 hkeyword.2 hname

theorem not_legal_underscore : ¬ Legal "_" := by
  intro h
  cases h with
  | plain _ _ _ hname => exact hname rfl
  | raw _ _ hname => simpa using congrArg String.toList hname

theorem escape_cases (name : String) :
    (name ∉ keywords ∧ escape name = name) ∨
      (name ∈ keywordsWithoutRawForm ∧ escape name = name ++ "_") ∨
        name ∈ keywords ∧ name ∉ keywordsWithoutRawForm ∧ escape name = "r#" ++ name := by
  by_cases hkeyword : name ∈ keywords
  · by_cases hraw : name ∈ keywordsWithoutRawForm
    · exact .inr (.inl ⟨hraw, by simp [escape, isKeyword, hkeyword, hraw]⟩)
    · exact .inr (.inr ⟨hkeyword, hraw, by simp [escape, isKeyword, hkeyword, hraw]⟩)
  · exact .inl ⟨hkeyword, by simp [escape, isKeyword, hkeyword]⟩

theorem legal_append_underscore (h : name ∈ keywordsWithoutRawForm) : Legal (name ++ "_") := by
  have hall : ∀ keyword ∈ keywordsWithoutRawForm, isSpelled (keyword ++ "_").toList = true ∧
      keyword ++ "_" ∉ keywords ∧ keyword ++ "_" ≠ "_" := by decide +kernel
  obtain ⟨hspelled, hkeyword, hname⟩ := hall name h
  exact legal_of_not_keyword (isSpelled_iff.mp hspelled) hkeyword hname

theorem legal_raw (h : name ∈ keywords) (hraw : name ∉ keywordsWithoutRawForm) :
    Legal ("r#" ++ name) := by
  refine .raw (mem_keywords_iff.mp h) ?_ rfl
  simp only [keywordsWithoutRawForm, List.mem_cons, List.not_mem_nil, not_or] at hraw ⊢
  grind

/-- Escaping makes every name legal but the single underscore. -/
theorem legal_escape_iff (h : Spells name.toList) : Legal (escape name) ↔ name ≠ "_" := by
  constructor
  · rintro hlegal rfl
    have hescape : escape "_" = "_" := by decide +kernel
    exact not_legal_underscore (hescape ▸ hlegal)
  · intro hname
    rcases escape_cases name with
        ⟨hkeyword, hescape⟩ | ⟨hraw, hescape⟩ | ⟨hkeyword, hraw, hescape⟩ <;>
      rw [hescape]
    · exact legal_of_not_keyword h hkeyword hname
    · exact legal_append_underscore hraw
    · exact legal_raw hkeyword hraw

theorem legal_iff_of_not_keyword (h : Spells name.toList) (hkeyword : name ∉ keywords) :
    Legal name ↔ name ≠ "_" := by
  have hescape : escape name = name := by simp [escape, isKeyword, hkeyword]
  rw [← legal_escape_iff h, hescape]

theorem escape_append_underscore (h : name ∈ keywordsWithoutRawForm) :
    escape (name ++ "_") = escape name := by
  have hall : ∀ keyword ∈ keywordsWithoutRawForm,
      escape (keyword ++ "_") = escape keyword := by decide +kernel
  exact hall name h

theorem Spells.not_mem_escape {c : Char} (h : Spells name.toList)
    (hc : Identifier.isLater c = false) (hraw : c ≠ '#') : c ∉ (escape name).toList := by
  have hname := h.not_mem hc
  have hunderscore : c ≠ '_' := by
    rintro rfl
    cases hc
  have hr : c ≠ 'r' := by
    rintro rfl
    cases hc
  rcases escape_cases name with ⟨-, hescape⟩ | ⟨-, hescape⟩ | ⟨-, -, hescape⟩ <;>
    simp [hescape, hname, hunderscore, hr, hraw]

/-- The raw form of a keyword is recognised by a character that no name holds. -/
theorem ne_raw (h : '#' ∉ name.toList) : name ≠ "r#" ++ other := by
  rintro rfl
  simp at h

theorem escape_eq_escape_iff (h : Spells name.toList) (hother : Spells other.toList) :
    escape name = escape other ↔ name = other ∨
      (name ∈ keywordsWithoutRawForm ∧ other = name ++ "_") ∨
        other ∈ keywordsWithoutRawForm ∧ name = other ++ "_" := by
  have hsharp : '#' ∉ name.toList := h.not_mem (by decide)
  have hsharp' : '#' ∉ other.toList := hother.not_mem (by decide)
  constructor
  · intro heq
    rcases escape_cases name with ⟨hkeyword, hescape⟩ | ⟨hraw, hescape⟩ | ⟨hkeyword, -, hescape⟩ <;>
      rcases escape_cases other with ⟨hkeyword', hescape'⟩ | ⟨hraw', hescape'⟩ |
        ⟨hkeyword', -, hescape'⟩ <;>
      rw [hescape, hescape'] at heq
    · exact .inl heq
    · exact .inr (.inr ⟨hraw', heq⟩)
    · exact absurd heq (ne_raw hsharp)
    · exact .inr (.inl ⟨hraw, heq.symm⟩)
    · exact .inl (by simpa using heq)
    · exact absurd heq (ne_raw (by simpa using hsharp))
    · exact absurd heq.symm (ne_raw hsharp')
    · exact absurd heq.symm (ne_raw (by simpa using hsharp'))
    · exact .inl (by simpa using heq)
  · rintro (rfl | ⟨hraw, rfl⟩ | ⟨hraw, rfl⟩)
    · rfl
    · exact (escape_append_underscore hraw).symm
    · exact escape_append_underscore hraw

theorem nodup_map_escape_iff (hnodup : names.Nodup) (h : ∀ name ∈ names, Spells name.toList) :
    (names.map escape).Nodup ↔ ∀ keyword ∈ keywordsWithoutRawForm,
      ¬ (keyword ∈ names ∧ keyword ++ "_" ∈ names) := by
  constructor
  · rintro hescaped keyword hraw ⟨hmem, hmem'⟩
    have hsame := List.inj_on_of_nodup_map hescaped hmem hmem' (escape_append_underscore hraw).symm
    simpa using congrArg (String.length ·) hsame
  · intro hfree
    refine hnodup.map_on fun name hname other hother heq => ?_
    rcases (escape_eq_escape_iff (h name hname) (h other hother)).mp heq with
      hsame | ⟨hraw, rfl⟩ | ⟨hraw, rfl⟩
    · exact hsame
    · exact absurd ⟨hname, hother⟩ (hfree _ hraw)
    · exact absurd ⟨hother, hname⟩ (hfree _ hraw)

theorem code_of_isUpper {c : Char} (h : c.isUpper = true) :
    65 ≤ c.val.toNat ∧ c.val.toNat ≤ 90 := by
  simpa [Char.le_def, UInt32.le_iff_toNat_le] using isUpper_iff.mp h

theorem isLower_iff {c : Char} : c.isLower = true ↔ 'a' ≤ c ∧ c ≤ 'z' := by
  delta Char.isLower
  simp only [Bool.and_eq_true, decide_eq_true_eq]
  exact Iff.rfl

theorem isLower_iff_code {c : Char} :
    c.isLower = true ↔ 97 ≤ c.val.toNat ∧ c.val.toNat ≤ 122 := by
  simp [isLower_iff, Char.le_def, UInt32.le_iff_toNat_le]

theorem isAlpha_eq_or (c : Char) : c.isAlpha = (c.isUpper || c.isLower) := rfl

theorem isLower_eq_false_of_isUpper {c : Char} (h : c.isUpper = true) : c.isLower = false := by
  have hcode := code_of_isUpper h
  rw [Bool.eq_false_iff, ne_eq, isLower_iff_code]
  omega

theorem toLower_of_isUpper {c : Char} (h : c.isUpper = true) : c.toLower.val = c.val + 32 := by
  delta Char.toLower
  split
  case isTrue => rfl
  case isFalse hother => exact absurd (isUpper_iff.mp h) hother

theorem toLower_of_not_isUpper {c : Char} (h : c.isUpper = false) : c.toLower = c := by
  delta Char.toLower
  split
  case isTrue hcapital => exact absurd (isUpper_iff.mpr hcapital) (Bool.eq_false_iff.mp h)
  case isFalse => rfl

theorem isLower_toLower_of_isUpper {c : Char} (h : c.isUpper = true) :
    c.toLower.isLower = true := by
  have hcode := code_of_isUpper h
  rw [isLower_iff_code, toLower_of_isUpper h]
  simp only [UInt32.toNat_add, UInt32.reduceToNat]
  omega

@[simp] theorem isAlpha_toLower (c : Char) : c.toLower.isAlpha = c.isAlpha := by
  cases hupper : c.isUpper with
  | false => rw [toLower_of_not_isUpper hupper]
  | true => simp [isAlpha_eq_or, hupper, isLower_toLower_of_isUpper hupper]

theorem isAlpha_of_toLower_ne {c : Char} (h : c.toLower ≠ c) : c.isAlpha = true := by
  by_contra halpha
  exact h (toLower_of_not_isUpper (by simp_all [isAlpha_eq_or]))

theorem toUpper_toLower_of_isUpper {c : Char} (h : c.isUpper = true) : c.toLower.toUpper = c := by
  have hlower := isLower_toLower_of_isUpper h
  apply Char.ext
  delta Char.toUpper
  split
  case isTrue =>
    change c.toLower.val + _ = _
    rw [toLower_of_isUpper h, UInt32.add_assoc]
    exact UInt32.add_zero _
  case isFalse hother => exact absurd (isLower_iff.mp hlower) hother

theorem isFirst_toLower {c : Char} (h : isFirst c = true) : isFirst c.toLower = true := by
  by_cases hsame : c.toLower = c
  · rwa [hsame]
  · simp [isFirst, isAlpha_of_toLower_ne hsame]

theorem isLater_of_isFirst {c : Char} (h : isFirst c = true) : isLater c = true :=
  isLater_iff.mpr ((isFirst_iff.mp h).imp_right .inr)

theorem isLater_toLower {c : Char} (h : isLater c = true) : isLater c.toLower = true := by
  by_cases hsame : c.toLower = c
  · rwa [hsame]
  · exact isLater_of_isFirst (isFirst_toLower (by simp [isFirst, isAlpha_of_toLower_ne hsame]))

theorem isLater_of_mem_constructorChar {c x : Char} (h : isLater c = true)
    (hx : x ∈ constructorChar c) : isLater x = true := by
  unfold constructorChar at hx
  split at hx
  · rcases List.mem_pair.mp hx with rfl | rfl
    · decide
    · exact isLater_toLower h
  · rwa [List.mem_singleton.mp hx]

theorem Spells.constructorChars {cs : List Char} (h : Spells cs) :
    Spells (constructorChars cs) := by
  rw [← isSpelled_iff] at h ⊢
  cases cs with
  | nil => cases h
  | cons first rest =>
    simp only [isSpelled, Identifier.constructorChars, Bool.and_eq_true, List.all_eq_true] at h ⊢
    refine ⟨isFirst_toLower h.1, fun x hx => ?_⟩
    obtain ⟨c, hc, hmem⟩ := List.mem_flatMap.mp hx
    exact isLater_of_mem_constructorChar (h.2 c hc) hmem

theorem toLower_eq_underscore_iff {c : Char} : c.toLower = '_' ↔ c = '_' := by
  constructor
  · intro hlower
    by_contra hne
    have halpha := isAlpha_of_toLower_ne (c := c) (by rw [hlower]; exact Ne.symm hne)
    rw [← isAlpha_toLower, hlower] at halpha
    cases halpha
  · rintro rfl
    rfl

theorem constructorChar_ne_nil (c : Char) : constructorChar c ≠ [] := by
  unfold constructorChar
  split <;> exact List.cons_ne_nil _ _

theorem constructorChars_eq_underscore_iff {cs : List Char} :
    constructorChars cs = ['_'] ↔ cs = ['_'] := by
  cases cs with
  | nil => simp [constructorChars]
  | cons first rest =>
    simp only [constructorChars, List.cons.injEq, toLower_eq_underscore_iff,
      List.flatMap_eq_nil_iff, constructorChar_ne_nil, imp_false, ← List.eq_nil_iff_forall_not_mem]

theorem legal_constructorName_iff (h : Spells name.toList) :
    Legal (constructorName name) ↔ name ≠ "_" := by
  have hspelled : Spells (String.ofList (constructorChars name.toList)).toList := by
    simpa using h.constructorChars
  rw [constructorName, legal_escape_iff hspelled, ne_eq, ne_eq, ← String.toList_inj,
    String.toList_ofList, ← String.toList_inj]
  exact not_congr constructorChars_eq_underscore_iff

end Identifier

namespace Source

/-- The name that a field has in a declaration. -/
def declaredName (declaration : String) : String :=
  String.ofList (declaration.toList.takeWhile (· != ':'))

theorem declaredName_typedField {field : ResolvedField}
    (h : Identifier.Spells field.name.toList) :
    declaredName (typedField field) = Identifier.escape field.name := by
  have hname : ∀ c ∈ (Identifier.escape field.name).toList, (c != ':') = true := by
    intro c hc
    simpa using fun heq : c = ':' => h.not_mem_escape (by decide) (by decide) (heq ▸ hc)
  have hrest : (": " ++ field.type).toList.takeWhile (· != ':') = [] := by
    rw [String.toList_append]
    rfl
  rw [declaredName, typedField, String.append_assoc, String.toList_append,
    List.takeWhile_append_of_pos hname, hrest, List.append_nil, String.ofList_toList]

end Source

namespace Variant

variable {entry : String} {variant : Variant}

theorem Spells.fields_spelled {cs : List Char} (h : Spells cs variant) :
    (∀ field ∈ variant.fields, Identifier.Spells field.name.toList) ∧
      variant.fieldNames.Nodup := by
  obtain ⟨-, _ | ⟨-, hfields, hnodup⟩⟩ := h
  · simp [fieldNames]
  · refine ⟨fun field hfield => ?_, hnodup⟩
    obtain ⟨fragment, ⟨-, -, hname⟩⟩ := exists_of_forall₂_of_mem hfields.flip hfield
    simpa using hname

/-- The identifiers of the fields, in order. -/
def fieldIdentifiers (variant : Variant) : List String :=
  variant.fieldNames.map Identifier.escape

/-- Whatever the layout, the fields of a resolved variant are declared and listed under these
identifiers. -/
theorem emitted_fieldIdentifiers (h : parse entry = .ok variant) {resolver : Resolver}
    {family : String} {resolved : ResolvedVariant}
    (hresolved : resolver.resolveVariant family variant = .ok resolved) :
    (resolved.fields.map fun field => Source.declaredName (Source.typedField field)) =
        variant.fieldIdentifiers ∧
      Source.fieldNames resolved.fields = String.intercalate ", " variant.fieldIdentifiers := by
  have hnames := Resolver.resolveVariant_fieldNames hresolved
  have hspelled : ∀ field ∈ resolved.fields, Identifier.Spells field.name.toList := by
    intro field hfield
    have hname : field.name ∈ variant.fieldNames := hnames ▸ List.mem_map_of_mem hfield
    obtain ⟨declared, hdeclared, heq⟩ := List.mem_map.mp hname
    exact heq ▸ (parse_eq_ok_iff.mp h).fields_spelled.1 declared hdeclared
  have hidentifiers : (resolved.fields.map fun field => Identifier.escape field.name) =
      variant.fieldIdentifiers := by
    rw [fieldIdentifiers, ← hnames, List.map_map]
    rfl
  refine ⟨?_, ?_⟩
  · rw [← hidentifiers]
    exact List.map_congr_left fun field hfield =>
      Source.declaredName_typedField (hspelled field hfield)
  · rw [Source.fieldNames, hidentifiers]

/-- The identifiers of the fields are distinct unless a keyword without raw form stands beside
itself with an underscore. -/
theorem fieldIdentifiers_nodup_iff (h : parse entry = .ok variant) :
    (variant.fieldIdentifiers.Nodup ↔ ∀ keyword ∈ Identifier.keywordsWithoutRawForm,
      ¬ (keyword ∈ variant.fieldNames ∧ keyword ++ "_" ∈ variant.fieldNames)) ∧
    ∀ (resolver : Resolver) (family : String) (resolved : ResolvedVariant),
      resolver.resolveVariant family variant = .ok resolved →
      (resolved.fields.map fun field => Source.declaredName (Source.typedField field)) =
          variant.fieldIdentifiers ∧
        Source.fieldNames resolved.fields = String.intercalate ", " variant.fieldIdentifiers := by
  obtain ⟨hspelled, hnodup⟩ := (parse_eq_ok_iff.mp h).fields_spelled
  refine ⟨Identifier.nodup_map_escape_iff hnodup ?_, fun _ _ _ => emitted_fieldIdentifiers h⟩
  intro name hname
  obtain ⟨field, hfield, rfl⟩ := List.mem_map.mp hname
  exact hspelled field hfield

/-- A variant whose fields are named by keywords of both kinds. -/
def keywordFields : Variant :=
  ⟨"If", [⟨"self", "bool"⟩, ⟨"type", "i64"⟩, ⟨"super_", "Token"⟩]⟩

theorem keywordFields_nodup : parse "If : bool self, i64 type, Token super_" = .ok keywordFields ∧
    keywordFields.fieldIdentifiers = ["self_", "r#type", "super_"] ∧
    keywordFields.fieldIdentifiers.Nodup ∧
    ∃ resolved, (Resolver.mk .shared .rc [] ["Token"]).resolveVariant "Stmt" keywordFields =
      .ok resolved ∧ Source.fieldNames resolved.fields = "self_, r#type, super_" := by
  have hparse : parse "If : bool self, i64 type, Token super_" = .ok keywordFields := by
    decide +kernel
  have hresolved : (Resolver.mk .shared .rc [] ["Token"]).resolveVariant "Stmt" keywordFields =
      .ok ⟨"If", [⟨"self", "bool", "bool", .final⟩, ⟨"type", "i64", "i64", .final⟩,
        ⟨"super_", "Token", "Token", .final⟩]⟩ := by decide +kernel
  obtain ⟨hnodup, hemitted⟩ := fieldIdentifiers_nodup_iff hparse
  have hlisted : String.intercalate ", " keywordFields.fieldIdentifiers =
      "self_, r#type, super_" := by decide +kernel
  exact ⟨hparse, by decide +kernel, hnodup.mpr (by decide +kernel), _, hresolved,
    (hemitted _ _ _ hresolved).2.trans hlisted⟩

/-- An accepted entry both of whose fields are declared as `self_`. -/
theorem not_nodup_of_parse : ¬ ∀ (entry : String) (variant : Variant),
    parse entry = .ok variant → variant.fieldIdentifiers.Nodup := by
  intro h
  have hparse : parse "Pair : i64 self, i64 self_" =
      .ok ⟨"Pair", [⟨"self", "i64"⟩, ⟨"self_", "i64"⟩]⟩ := by decide +kernel
  exact absurd (h _ _ hparse) (by decide +kernel)

/-- The identifiers that an accepted entry gives are legal unless they come from an underscore. -/
theorem identifiers_legal_iff (h : parse entry = .ok variant) :
    (Identifier.Legal variant.name ↔ variant.name ≠ "_") ∧
      (Identifier.Legal (Identifier.constructorName variant.name) ↔ variant.name ≠ "_") ∧
      ∀ field ∈ variant.fields,
        (Identifier.Legal (Identifier.escape field.name) ↔ field.name ≠ "_") := by
  have hspelled := parse_eq_ok_iff.mp h
  obtain ⟨hname, hkeyword⟩ := hspelled.name_spelled
  refine ⟨Identifier.legal_iff_of_not_keyword hname hkeyword,
    Identifier.legal_constructorName_iff hname, fun field hfield => ?_⟩
  exact Identifier.legal_escape_iff (hspelled.fields_spelled.1 field hfield)

theorem super_legal : parse "Super : i64 self, i64 match" =
      .ok ⟨"Super", [⟨"self", "i64"⟩, ⟨"match", "i64"⟩]⟩ ∧ Identifier.Legal "Super" ∧
    Identifier.constructorName "Super" = "super_" ∧ Identifier.Legal "super_" ∧
    Identifier.escape "match" = "r#match" ∧ Identifier.Legal "r#match" := by
  have hparse : parse "Super : i64 self, i64 match" =
      .ok ⟨"Super", [⟨"self", "i64"⟩, ⟨"match", "i64"⟩]⟩ := by decide +kernel
  have hconstructor : Identifier.constructorName "Super" = "super_" := by decide +kernel
  have hescape : Identifier.escape "match" = "r#match" := by decide +kernel
  obtain ⟨hname, hbuilds, hfields⟩ := identifiers_legal_iff hparse
  exact ⟨hparse, hname.mpr (by decide), hconstructor, hconstructor ▸ hbuilds.mpr (by decide),
    hescape, hescape ▸ (hfields ⟨"match", "i64"⟩ (by decide)).mpr (by decide)⟩

/-- An accepted entry whose variant is called by the single underscore. -/
theorem not_legal_of_parse : ¬ ∀ (entry : String) (variant : Variant), parse entry = .ok variant →
    Identifier.Legal variant.name ∧ Identifier.Legal (Identifier.constructorName variant.name) ∧
      ∀ field ∈ variant.fields, Identifier.Legal (Identifier.escape field.name) := by
  intro h
  have hparse : parse "_ : i64 value" = .ok ⟨"_", [⟨"value", "i64"⟩]⟩ := by decide +kernel
  exact Identifier.not_legal_underscore (h _ _ hparse).1

end Variant

end TreeTypes
