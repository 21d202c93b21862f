import TreeTypes.Proofs.Grammar.InOrder
import TreeTypes.Proofs.Grammar.Spelling

/-!
# Reading entries

Reading an entry accepts what spells a variant and gives that variant, and of any other text it
reports the leftmost fault. The parts of an entry are taken one after the other: the name, one
fragment, all fragments by `readInOrder`, and the whole entry.
-/

namespace TreeTypes

open Text

variable {cs fragment text head name : List Char} {fragments : List (List Char)}
variable {field : Field} {fields earlier : List Field} {reason : Malformed}

namespace Identifier

theorem isAlpha_iff {c : Char} : c.isAlpha = true ↔ IsLetter c := by
  delta Char.isAlpha Char.isUpper Char.isLower
  simp only [IsLetter, Bool.or_eq_true, Bool.and_eq_true, decide_eq_true_eq]
  exact or_comm

theorem isDigit_iff {c : Char} : c.isDigit = true ↔ IsDigit c := by
  delta Char.isDigit
  simp only [Bool.and_eq_true, decide_eq_true_eq]
  exact Iff.rfl

theorem isUpper_iff {c : Char} : c.isUpper = true ↔ 'A' ≤ c ∧ c ≤ 'Z' := by
  delta Char.isUpper
  simp only [decide_eq_true_eq]
  exact Iff.rfl

theorem isFirst_iff {c : Char} : isFirst c = true ↔ IsLetter c ∨ c = '_' := by
  rw [isFirst, Bool.or_eq_true, isAlpha_iff, beq_iff_eq]

theorem isLater_iff {c : Char} : isLater c = true ↔ IsLetter c ∨ IsDigit c ∨ c = '_' := by
  have halphanum : c.isAlphanum = (c.isAlpha || c.isDigit) := rfl
  rw [isLater, halphanum, Bool.or_eq_true, Bool.or_eq_true, isAlpha_iff, isDigit_iff, beq_iff_eq,
    or_assoc]

theorem isSpelled_iff : isSpelled cs = true ↔ Spells cs := by
  cases cs with
  | nil => simp [isSpelled]; rintro ⟨⟩
  | cons first rest =>
    simp only [isSpelled, Bool.and_eq_true, isFirst_iff, List.all_eq_true, isLater_iff]
    constructor
    · rintro ⟨hfirst, hrest⟩
      exact .intro hfirst hrest
    · rintro ⟨hfirst, hrest⟩
      exact ⟨hfirst, hrest⟩

theorem Spells.isLater {c : Char} (h : Spells cs) (hc : c ∈ cs) : isLater c = true := by
  obtain ⟨hfirst, hrest⟩ := h
  rcases List.mem_cons.mp hc with rfl | hc
  · exact isLater_iff.mpr (hfirst.imp_right .inr)
  · exact isLater_iff.mpr (hrest c hc)

theorem code_of_isLater {c : Char} (h : isLater c = true) : 48 ≤ c.toNat ∧ c.toNat < 128 := by
  rcases isLater_iff.mp h with (hlower | hupper) | hdigit | rfl
  · exact ⟨le_trans (by decide) hlower.1, lt_of_le_of_lt hlower.2 (by decide)⟩
  · exact ⟨le_trans (by decide) hupper.1, lt_of_le_of_lt hupper.2 (by decide)⟩
  · exact ⟨hdigit.1, lt_of_le_of_lt hdigit.2 (by decide)⟩
  · decide

theorem isBlank_of_isLater {c : Char} (h : isLater c = true) : isBlank c = false := by
  have hcode := code_of_isLater h
  have hnone : ¬ (9 ≤ c.toNat ∧ c.toNat ≤ 13 ∨ c.toNat = 32) := by omega
  simpa [isBlank, hcode.2] using hnone

theorem Spells.solid (h : Spells cs) : Solid cs := by
  refine ⟨?_, fun c hc => isBlank_of_isLater (h.isLater hc)⟩
  rintro rfl
  cases h

theorem Spells.not_mem {c : Char} (h : Spells cs) (hc : Identifier.isLater c = false) : c ∉ cs := by
  intro hmem
  simp [h.isLater hmem] at hc

end Identifier

namespace Field

theorem divides_iff {type : List Char} :
    Divides fragment type name ↔ words fragment = [type, name] := by
  rw [words_eq_pair_iff]
  constructor
  · rintro ⟨hbefore, htype, hgap, hne, hname, hbehind⟩
    exact ⟨_, _, _, rfl, hbefore, htype, hgap, hne, hname, hbehind⟩
  · rintro ⟨before, gap, behind, rfl, hbefore, htype, hgap, hne, hname, hbehind⟩
    exact .intro hbefore htype hgap hne hname hbehind

theorem Divides.not_mem_type {type : List Char} (h : Divides fragment type name) {c : Char}
    (hc : c ∉ fragment) : c ∉ type := by
  obtain ⟨hbefore, htype, hgap, hne, hname, hbehind⟩ := h
  simp only [List.mem_append, not_or] at hc
  exact hc.1.1.1.2

theorem Spells.not_mem_comma (h : Spells fragment field) : ',' ∉ fragment := by
  obtain ⟨⟨hbefore, -, hgap, -, -, hbehind⟩, htype, hname⟩ := h
  have hblank : isBlank ',' = false := by decide
  simp only [List.mem_append, not_or]
  exact ⟨⟨⟨⟨hbefore.not_mem hblank, htype⟩, hgap.not_mem hblank⟩, hname.not_mem (by decide)⟩,
    hbehind.not_mem hblank⟩

theorem Spells.not_blank (h : Spells fragment field) : ¬ Blank fragment := by
  obtain ⟨hdivides, -, -⟩ := h
  rw [← words_eq_nil_iff, divides_iff.mp hdivides]
  exact List.cons_ne_nil _ _

theorem parse_of_divides {type : List Char} (h : Divides fragment type name) :
    parse fragment = if Identifier.isSpelled name then .ok ⟨String.ofList name, typeOf type⟩
      else .error (.invalidIdentifier (String.ofList name)) := by
  rw [parse, divides_iff.mp h]

theorem parse_of_not_divides (h : ∀ type name, ¬ Divides fragment type name) :
    parse fragment = .error (.fieldShape (String.ofList (trim fragment))) := by
  unfold parse
  split
  case h_1 type name hwords => exact absurd (divides_iff.mpr hwords) (h type name)
  case h_2 => rfl

theorem parse_eq_ok_iff (hcomma : ',' ∉ fragment) :
    parse fragment = .ok field ↔ Spells fragment field := by
  constructor
  · intro hparse
    by_cases hdivided : ∃ type name, Divides fragment type name
    · obtain ⟨type, name, hdivides⟩ := hdivided
      rw [parse_of_divides hdivides] at hparse
      split at hparse
      case isTrue hspelled =>
        obtain rfl := Except.ok.inj hparse
        exact .intro hdivides (hdivides.not_mem_type hcomma) (Identifier.isSpelled_iff.mp hspelled)
      case isFalse => cases hparse
    · simp only [not_exists] at hdivided
      rw [parse_of_not_divides hdivided] at hparse
      cases hparse
  · rintro ⟨hdivides, -, hname⟩
    rw [parse_of_divides hdivides, if_pos (Identifier.isSpelled_iff.mpr hname)]
    rfl

theorem parse_eq_error_iff : parse fragment = .error reason ↔
    (∀ type name, ¬ Divides fragment type name) ∧
        reason = .fieldShape (String.ofList (trim fragment)) ∨
      ∃ type name, Divides fragment type name ∧ ¬ Identifier.Spells name ∧
        reason = .invalidIdentifier (String.ofList name) := by
  constructor
  · intro hparse
    by_cases hdivided : ∃ type name, Divides fragment type name
    · obtain ⟨type, name, hdivides⟩ := hdivided
      rw [parse_of_divides hdivides] at hparse
      split at hparse
      case isTrue => cases hparse
      case isFalse hspelled =>
        obtain rfl := Except.error.inj hparse
        exact .inr ⟨type, name, hdivides, mt Identifier.isSpelled_iff.mpr hspelled, rfl⟩
    · simp only [not_exists] at hdivided
      rw [parse_of_not_divides hdivided] at hparse
      exact .inl ⟨hdivided, (Except.error.inj hparse).symm⟩
  · rintro (⟨hnone, rfl⟩ | ⟨type, name, hdivides, hname, rfl⟩)
    · exact parse_of_not_divides hnone
    · rw [parse_of_divides hdivides, if_neg (mt Identifier.isSpelled_iff.mp hname)]

/-- The reason why a field cannot follow the fields `earlier`. -/
def repeated? (earlier : List Field) (_ : List Char) (field : Field) : Option Malformed :=
  if field.name ∈ earlier.map (·.name) then some (.duplicateField field.name) else none

theorem compares_repeated : Compares repeated? fun first later => first.name ≠ later.name := by
  intro earlier fragment field
  simp only [repeated?, ite_eq_right_iff, reduceCtorEq, imp_false, List.mem_map, not_exists,
    not_and]

theorem readStep_eq_error_iff_offends (hcomma : ',' ∉ fragment) :
    readStep parse repeated? earlier fragment = .error reason ↔
      Offends (earlier.map (·.name)) fragment reason := by
  simp only [readStep_eq_error_iff, parse_eq_error_iff, repeated?, Option.ite_none_right_eq_some,
    Option.some.injEq]
  constructor
  · rintro ((⟨hnone, rfl⟩ | ⟨type, name, hdivides, hname, rfl⟩) | ⟨field, hfield, hseen, rfl⟩)
    · exact .shape hnone (trims_trim fragment)
    · exact .name hdivides hname
    · obtain ⟨hdivides, -, hname⟩ := (parse_eq_ok_iff hcomma).mp hfield
      exact .repeated hdivides hname hseen
  · rintro (⟨hnone, htrims⟩ | ⟨hdivides, hname⟩ | ⟨hdivides, hname, hseen⟩)
    · exact .inl (.inl ⟨hnone, by rw [htrims.trim_eq]⟩)
    · exact .inl (.inr ⟨_, _, hdivides, hname, rfl⟩)
    · have hfield := Spells.intro hdivides (hdivides.not_mem_type hcomma) hname
      exact .inr ⟨_, (parse_eq_ok_iff hcomma).mpr hfield, hseen, rfl⟩

theorem parseAll_eq_readInOrder {seen : List String}
    (hseen : ∀ name, name ∈ seen ↔ name ∈ earlier.map (·.name)) :
    parseAll seen fragments = readInOrder parse repeated? earlier fragments := by
  induction fragments generalizing seen earlier with
  | nil => rfl
  | cons fragment rest ih =>
    simp only [parseAll, readInOrder, readStep]
    cases parse fragment with
    | error reason => rfl
    | ok field =>
      by_cases hrepeated : field.name ∈ earlier.map (·.name)
      · simp only [bind, Except.bind, List.contains_iff_mem, hseen, repeated?, hrepeated,
          ↓reduceIte]
        rfl
      · -- The two lists of names are in opposite orders, which membership does not notice.
        have hrest : parseAll (field.name :: seen) rest =
            readInOrder parse repeated? (earlier ++ [field]) rest :=
          ih fun name => by simp [hseen, or_comm]
        simp only [bind, Except.bind, List.contains_iff_mem, hseen, repeated?, hrepeated,
          ↓reduceIte, hrest]
        rfl

theorem parseAll_nil : parseAll [] fragments = readInOrder parse repeated? [] fragments :=
  parseAll_eq_readInOrder (by simp)

theorem forall₂_parse_iff (hcomma : ∀ fragment ∈ fragments, ',' ∉ fragment) :
    List.Forall₂ (fun fragment field => parse fragment = .ok field) fragments fields ↔
      List.Forall₂ Spells fragments fields :=
  forall₂_congr_left fun fragment hfragment _ => parse_eq_ok_iff (hcomma fragment hfragment)

theorem not_mem_comma_of_spells (h : List.Forall₂ Spells fragments fields) :
    ∀ fragment ∈ fragments, ',' ∉ fragment := by
  intro fragment hfragment
  obtain ⟨field, hfield⟩ := exists_of_forall₂_of_mem h hfragment
  exact hfield.not_mem_comma

/-- Fields that are joined by commas do not give a blank text. -/
theorem not_blank_of_spells (hne : fragments ≠ []) (h : List.Forall₂ Spells fragments fields) :
    ¬ Blank ([','].intercalate fragments) := by
  intro hblank
  cases h with
  | nil => exact hne rfl
  | cons hfirst hrest =>
    refine hfirst.not_blank fun c hc => hblank c ?_
    cases hrest <;> simp [List.intercalate, hc]

theorem parseAll_eq_ok_iff (hcomma : ∀ fragment ∈ fragments, ',' ∉ fragment) :
    parseAll [] fragments = .ok fields ↔
      List.Forall₂ Spells fragments fields ∧ (fields.map (·.name)).Nodup := by
  rw [parseAll_nil, readInOrder_eq_ok_iff compares_repeated, forall₂_parse_iff hcomma, List.Nodup,
    List.pairwise_map]
  simp only [List.not_mem_nil, false_imp_iff, implies_true, and_true]

theorem parseAll_eq_error_iff (hcomma : ∀ fragment ∈ fragments, ',' ∉ fragment) :
    parseAll [] fragments = .error reason ↔
      ∃ good fragment others fields, fragments = good ++ fragment :: others ∧
        List.Forall₂ Spells good fields ∧ (fields.map (·.name)).Nodup ∧
          Offends (fields.map (·.name)) fragment reason := by
  rw [parseAll_nil, readInOrder_eq_error_iff]
  constructor
  · rintro ⟨good, fragment, others, fields, rfl, hgood, hfragment⟩
    simp only [List.forall_mem_append, List.forall_mem_cons] at hcomma
    obtain ⟨hspelled, hnodup⟩ := (parseAll_eq_ok_iff hcomma.1).mp (parseAll_nil.trans hgood)
    exact ⟨good, fragment, others, fields, rfl, hspelled, hnodup,
      (readStep_eq_error_iff_offends hcomma.2.1).mp hfragment⟩
  · rintro ⟨good, fragment, others, fields, rfl, hspelled, hnodup, hoffends⟩
    simp only [List.forall_mem_append, List.forall_mem_cons] at hcomma
    refine ⟨good, fragment, others, fields, rfl, ?_, ?_⟩
    · exact parseAll_nil.symm.trans ((parseAll_eq_ok_iff hcomma.1).mpr ⟨hspelled, hnodup⟩)
    · exact (readStep_eq_error_iff_offends hcomma.2.1).mpr hoffends

end Field

namespace Variant

theorem parseFields_of_blank (h : Blank text) : parseFields text = .ok [] := by
  rw [parseFields, (trims_nil_iff.mpr h).trim_eq]
  rfl

theorem parseFields_of_not_blank (h : ¬ Blank text) :
    parseFields text = Field.parseAll [] (split ',' text) := by
  rw [← trims_nil_iff, trims_iff, ← List.isEmpty_iff] at h
  rw [parseFields, if_neg h]

theorem parseFields_eq_ok_iff : parseFields text = .ok fields ↔ Field.SpellsAll text fields := by
  constructor
  · intro hparse
    by_cases hblank : Blank text
    · rw [parseFields_of_blank hblank] at hparse
      obtain rfl := Except.ok.inj hparse
      exact .none hblank
    · rw [parseFields_of_not_blank hblank,
        Field.parseAll_eq_ok_iff fun _ => not_mem_of_mem_split] at hparse
      rw [← intercalate_split ',' text]
      exact .some (splitWhen_ne_nil _ text) hparse.1 hparse.2
  · rintro (hblank | ⟨hne, hspelled, hnodup⟩)
    · exact parseFields_of_blank hblank
    · rw [parseFields_of_not_blank (Field.not_blank_of_spells hne hspelled),
        split_intercalate (Field.not_mem_comma_of_spells hspelled) hne]
      exact (Field.parseAll_eq_ok_iff (Field.not_mem_comma_of_spells hspelled)).mpr
        ⟨hspelled, hnodup⟩

theorem parseFields_eq_error_iff :
    parseFields text = .error reason ↔ Field.ViolatesAll text reason := by
  constructor
  · intro hparse
    by_cases hblank : Blank text
    · rw [parseFields_of_blank hblank] at hparse
      cases hparse
    · rw [parseFields_of_not_blank hblank,
        Field.parseAll_eq_error_iff fun _ => not_mem_of_mem_split] at hparse
      obtain ⟨good, fragment, others, fields, hsplit, hspelled, hnodup, hoffends⟩ := hparse
      have hcomma : ∀ piece ∈ good ++ fragment :: others, ',' ∉ piece := by
        rw [← hsplit]
        exact fun _ => not_mem_of_mem_split
      rw [← intercalate_split ',' text, hsplit] at hblank ⊢
      exact .intro hcomma hblank hspelled hnodup hoffends
  · rintro ⟨hcomma, hblank, hspelled, hnodup, hoffends⟩
    rw [parseFields_of_not_blank hblank, split_intercalate hcomma (by simp)]
    exact (Field.parseAll_eq_error_iff hcomma).mpr ⟨_, _, _, _, rfl, hspelled, hnodup, hoffends⟩

theorem names_iff : Names head name ↔
    Trims head name ∧ Identifier.Spells name ∧ String.ofList name ∉ Identifier.keywords := by
  constructor
  · rintro ⟨hbefore, hname, hkeyword, hbehind⟩
    exact ⟨.of_solid hbefore hname.solid hbehind, hname, hkeyword⟩
  · rintro ⟨⟨⟨before, behind, rfl, hbefore, hbehind⟩, -, -⟩, hname, hkeyword⟩
    exact .intro hbefore hname hkeyword hbehind

theorem Spells.name_spelled {entry : List Char} {variant : Variant} (h : Spells entry variant) :
    Identifier.Spells variant.name.toList ∧ variant.name ∉ Identifier.keywords := by
  obtain ⟨⟨-, hname, hkeyword, -⟩, -⟩ := h
  exact ⟨by simpa using hname, hkeyword⟩

theorem Names.not_mem_colon (h : Names head name) : ':' ∉ head := by
  obtain ⟨hbefore, hname, -, hbehind⟩ := h
  have hblank : isBlank ':' = false := by decide
  simp only [List.mem_append, not_or]
  exact ⟨⟨hbefore.not_mem hblank, hname.not_mem (by decide)⟩, hbehind.not_mem hblank⟩

theorem read_of_not_mem {entry : List Char} (h : ':' ∉ entry) :
    read entry = .error .missingSeparator := by
  rw [read, splitOnce_eq_none_iff.mpr h]

theorem read_of_blank (h : Blank head) :
    read (head ++ ':' :: text) = .error .emptyVariantName := by
  rw [read, splitOnce_append_cons (h.not_mem (by decide))]
  simp only [(trims_nil_iff.mpr h).trim_eq]
  rfl

theorem read_of_names (h : Names head name) :
    read (head ++ ':' :: text) =
      (parseFields text).map fun fields => ⟨String.ofList name, fields⟩ := by
  obtain ⟨htrims, hname, hkeyword⟩ := names_iff.mp h
  have hne : name.isEmpty = false := by simpa using hname.solid.1
  have hfree : Identifier.isKeyword (String.ofList name) = false := by
    simpa [Identifier.isKeyword] using hkeyword
  rw [read, splitOnce_append_cons h.not_mem_colon]
  simp [htrims.trim_eq, hne, Identifier.isSpelled_iff.mpr hname, hfree]

theorem read_of_not_names (hcolon : ':' ∉ head) (htrims : Trims head name) (hne : name ≠ [])
    (hname : ¬ (Identifier.Spells name ∧ String.ofList name ∉ Identifier.keywords)) :
    read (head ++ ':' :: text) = .error (.invalidIdentifier (String.ofList name)) := by
  have hrefused : (!Identifier.isSpelled name || Identifier.isKeyword (String.ofList name)) =
      true := by
    rw [← Identifier.isSpelled_iff] at hname
    simpa [Identifier.isKeyword, or_iff_not_imp_left] using hname
  rw [read, splitOnce_append_cons hcolon]
  simp [htrims.trim_eq, hne, hrefused]

/-- The text before the first colon is blank, names a variant, or is something else. -/
theorem entry_cases (entry : List Char) : ':' ∉ entry ∨
    ∃ head text, entry = head ++ ':' :: text ∧ ':' ∉ head ∧ (Blank head ∨
      ∃ name, Names head name ∨ Trims head name ∧ name ≠ [] ∧
        ¬ (Identifier.Spells name ∧ String.ofList name ∉ Identifier.keywords)) := by
  cases hsplit : splitOnce ':' entry with
  | none => exact .inl (splitOnce_eq_none_iff.mp hsplit)
  | some parts =>
    obtain ⟨head, text⟩ := parts
    obtain ⟨rfl, hcolon⟩ := splitOnce_eq_some hsplit
    refine .inr ⟨head, text, rfl, hcolon, or_iff_not_imp_left.mpr fun hblank => ?_⟩
    have htrims := trims_trim head
    refine ⟨trim head, ?_⟩
    by_cases hname : Identifier.Spells (trim head) ∧
        String.ofList (trim head) ∉ Identifier.keywords
    · exact .inl (names_iff.mpr ⟨htrims, hname⟩)
    · exact .inr ⟨htrims, fun hnil => hblank (trims_nil_iff.mp (hnil ▸ htrims)), hname⟩

theorem read_eq_ok_iff {entry : List Char} {variant : Variant} :
    read entry = .ok variant ↔ Spells entry variant := by
  constructor
  · intro hread
    rcases entry_cases entry with hcolon | ⟨head, text, rfl, hcolon, hblank | ⟨name, hname | hname⟩⟩
    · rw [read_of_not_mem hcolon] at hread
      cases hread
    · rw [read_of_blank hblank] at hread
      cases hread
    · rw [read_of_names hname] at hread
      cases hfields : parseFields text with
      | error reason => simp [hfields, Except.map] at hread
      | ok fields =>
        obtain rfl := Except.ok.inj (hfields ▸ hread)
        exact .intro hname (parseFields_eq_ok_iff.mp hfields)
    · rw [read_of_not_names hcolon hname.1 hname.2.1 hname.2.2] at hread
      cases hread
  · rintro ⟨hname, hfields⟩
    rw [read_of_names hname, parseFields_eq_ok_iff.mpr hfields]
    rfl

theorem read_eq_error_iff {entry : List Char} :
    read entry = .error reason ↔ Violates entry reason := by
  constructor
  · intro hread
    rcases entry_cases entry with hcolon | ⟨head, text, rfl, hcolon, hblank | ⟨name, hname | hname⟩⟩
    · rw [read_of_not_mem hcolon] at hread
      obtain rfl := Except.error.inj hread
      exact .separator hcolon
    · rw [read_of_blank hblank] at hread
      obtain rfl := Except.error.inj hread
      exact .unnamed hblank
    · rw [read_of_names hname] at hread
      cases hfields : parseFields text with
      | error found =>
        obtain rfl := Except.error.inj (hfields ▸ hread)
        exact .fields hname (parseFields_eq_error_iff.mp hfields)
      | ok fields => simp [hfields, Except.map] at hread
    · rw [read_of_not_names hcolon hname.1 hname.2.1 hname.2.2] at hread
      obtain rfl := Except.error.inj hread
      exact .name hcolon hname.1 hname.2.1 hname.2.2
  · rintro (hcolon | hblank | ⟨hcolon, htrims, hne, hname⟩ | ⟨hname, hfields⟩)
    · exact read_of_not_mem hcolon
    · exact read_of_blank hblank
    · exact read_of_not_names hcolon htrims hne hname
    · rw [read_of_names hname, parseFields_eq_error_iff.mpr hfields]
      rfl

theorem parse_eq_ok_iff {entry : String} {variant : Variant} :
    parse entry = .ok variant ↔ Spells entry.toList variant := by
  rw [← read_eq_ok_iff, parse]
  cases read entry.toList <;> simp [Except.mapError]

theorem parse_eq_error_iff {entry : String} {rejection : Rejection} :
    parse entry = .error rejection ↔
      rejection.entry = entry ∧ Violates entry.toList rejection.reason := by
  rw [← read_eq_error_iff, parse]
  cases read entry.toList with
  | ok variant => simp [Except.mapError]
  | error reason =>
    simp only [Except.mapError, Except.error.injEq]
    constructor
    · rintro rfl
      exact ⟨rfl, rfl⟩
    · rintro ⟨rfl, rfl⟩
      rfl

/-- An entry is accepted when it spells a variant and gives this variant, and any other entry is
rejected whole for its leftmost fault. -/
theorem parse_accepts_grammar (entry : String) :
    (∀ variant, parse entry = .ok variant ↔ Spells entry.toList variant) ∧
      ∀ rejection, parse entry = .error rejection ↔
        rejection.entry = entry ∧ Violates entry.toList rejection.reason :=
  ⟨fun _ => parse_eq_ok_iff, fun _ => parse_eq_error_iff⟩

-- Only the first colon separates, and a keyword may be the name of a field.
example : parse " Call :Map<K-V> names , a::B self" =
    .ok ⟨"Call", [⟨"names", "Map<K,V>"⟩, ⟨"self", "a::B"⟩]⟩ := by decide +kernel

end Variant

end TreeTypes
