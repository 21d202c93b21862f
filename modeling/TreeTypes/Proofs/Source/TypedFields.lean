import TreeTypes.Proofs.Grammar.Clashes
import TreeTypes.Proofs.Grammar.Escaping
import TreeTypes.Proofs.Resolution.Dependencies

/-!
# Lists of typed fields

A list of fields is written on one line, with a comma and a blank between two of them, and a type
may hold commas and colons itself, also at its ends. The list can be read back all the same: a name
holds no colon, and a type is one word, or two words of which the first does not end in a comma. So
the comma that ends a type is the last one before the blank in front of the next field.
-/

namespace TreeTypes

open Text

namespace Text

variable {stop : Char} {front other rest rest' word word' : List Char}

/-- A text is cut in one way at the first occurrence of a character. -/
theorem cut_inj (h : stop ∉ front) (h' : stop ∉ other)
    (heq : front ++ stop :: rest = other ++ stop :: rest') : front = other ∧ rest = rest' := by
  have hcut := congrArg (splitOnce stop) heq
  rw [splitOnce_append_cons h, splitOnce_append_cons h'] at hcut
  exact Prod.mk.inj (Option.some.inj hcut)

instance (cs : List Char) : Decidable (Solid cs) :=
  decidable_of_iff (cs ≠ [] ∧ cs.all (!isBlank ·) = true) (by simp [Solid])

theorem Solid.not_mem (h : Solid word) (hstop : isBlank stop = true) : stop ∉ word := by
  intro hmem
  rw [h.2 stop hmem] at hstop
  cases hstop

theorem Solid.append (h : Solid word) (h' : Solid word') : Solid (word ++ word') := by
  refine ⟨List.append_ne_nil_of_left_ne_nil h.1 word', fun c hc => ?_⟩
  exact (List.mem_append.mp hc).elim (h.2 c) (h'.2 c)

theorem solid_singleton {c : Char} (h : isBlank c = false) : Solid [c] :=
  ⟨List.cons_ne_nil c [], List.forall_mem_singleton.mpr h⟩

theorem Solid.blank_not_mem_comma (h : Solid word) : ' ' ∉ word ++ [','] :=
  (h.append (solid_singleton (by decide))).not_mem (by decide)

end Text

namespace Source

/-- The text of a type: a word, or two words with a blank between them of which the first does not
end in a comma. -/
inductive TypeText : List Char → Prop
  | word {word : List Char} : Solid word → TypeText word
  | pair {front back : List Char} : Solid front → front.getLast? ≠ some ',' → Solid back →
      TypeText (front ++ ' ' :: back)

/-- What stands behind a type: nothing, or a comma and a blank. -/
inductive EndsType : List Char → Prop
  | last : EndsType []
  | next {more : List Char} : EndsType (',' :: ' ' :: more)

variable {word word' type type' rest rest' : List Char}

theorem TypeText.newline_not_mem (h : TypeText type) : '\n' ∉ type := by
  have hblank : isBlank '\n' = true := by decide
  cases h with
  | word hword => exact hword.not_mem hblank
  | pair hfront _ hback =>
    simp [hfront.not_mem hblank, hback.not_mem hblank]

/-- A word and the comma behind it end at the first blank. -/
theorem word_inj (h : Solid word) (h' : Solid word') (hrest : EndsType rest)
    (hrest' : EndsType rest') (heq : word ++ rest = word' ++ rest') :
    word = word' ∧ rest = rest' := by
  have hblank : isBlank ' ' = true := by decide
  cases hrest with
  | last =>
    cases hrest' with
    | last => exact ⟨by simpa using heq, rfl⟩
    | next =>
      rw [List.append_nil] at heq
      exact absurd (by simp [heq]) (h.not_mem hblank)
  | next =>
    cases hrest' with
    | last =>
      rw [List.append_nil] at heq
      exact absurd (by simp [← heq]) (h'.not_mem hblank)
    | next =>
      rw [List.append_cons, List.append_cons word'] at heq
      obtain ⟨hwords, rfl⟩ := cut_inj h.blank_not_mem_comma h'.blank_not_mem_comma heq
      exact ⟨List.append_cancel_right hwords, rfl⟩

/-- A word with a comma behind it is not the first word of a type. -/
theorem word_append_ne_pair {front back : List Char} (h : Solid word) (hrest : EndsType rest)
    (hfront : Solid front) (hlast : front.getLast? ≠ some ',') :
    word ++ rest ≠ front ++ ' ' :: back := by
  have hblank : isBlank ' ' = true := by decide
  intro heq
  cases hrest with
  | last =>
    rw [List.append_nil] at heq
    exact absurd (by simp [heq]) (h.not_mem hblank)
  | next =>
    rw [List.append_cons] at heq
    obtain ⟨rfl, -⟩ := cut_inj h.blank_not_mem_comma (hfront.not_mem hblank) heq
    exact hlast (by simp)

/-- The text of a type is known from what stands behind its colon. -/
theorem TypeText.append_inj (h : TypeText type) (h' : TypeText type') (hrest : EndsType rest)
    (hrest' : EndsType rest') (heq : type ++ rest = type' ++ rest') :
    type = type' ∧ rest = rest' := by
  have hblank : isBlank ' ' = true := by decide
  cases h with
  | word hword =>
    cases h' with
    | word hword' => exact word_inj hword hword' hrest hrest' heq
    | pair hfront hlast =>
      rw [List.append_assoc, List.cons_append] at heq
      exact absurd heq (word_append_ne_pair hword hrest hfront hlast)
  | pair hfront hlast hback =>
    cases h' with
    | word hword' =>
      rw [List.append_assoc, List.cons_append] at heq
      exact absurd heq.symm (word_append_ne_pair hword' hrest' hfront hlast)
    | pair hfront' _ hback' =>
      rw [List.append_assoc, List.append_assoc, List.cons_append, List.cons_append] at heq
      obtain ⟨rfl, hbacks⟩ := cut_inj (hfront.not_mem hblank) (hfront'.not_mem hblank) heq
      obtain ⟨rfl, rfl⟩ := word_inj hback hback' hrest hrest' hbacks
      exact ⟨rfl, rfl⟩

/-- A type behind its label. -/
def labelled (pair : String × String) : String := pair.1 ++ ": " ++ pair.2

/-- Types behind their labels, with a comma and a blank between two of them. -/
def labelledList (pairs : List (String × String)) : String :=
  String.intercalate ", " (pairs.map labelled)

/-- A label holds no colon, and the text of a type stands behind it. -/
structure LabelText (pair : String × String) : Prop where
  colon_not_mem : ':' ∉ pair.1.toList
  type : TypeText pair.2.toList

/-- What stands in a list behind the pair in front of some others. -/
def behindLabelled : List (String × String) → List Char
  | [] => []
  | pair :: rest => ',' :: ' ' :: (labelledList (pair :: rest)).toList

variable {pairs listed : List (String × String)}

theorem endsType_behindLabelled (pairs : List (String × String)) :
    EndsType (behindLabelled pairs) := by
  cases pairs with
  | nil => exact .last
  | cons => exact .next

theorem toList_labelledList_cons (pair : String × String) (rest : List (String × String)) :
    (labelledList (pair :: rest)).toList =
      pair.1.toList ++ ':' :: ' ' :: (pair.2.toList ++ behindLabelled rest) := by
  cases rest with
  | nil => simp [labelledList, labelled, behindLabelled]
  | cons next rest => simp [labelledList, labelled, behindLabelled, String.intercalate_cons_cons]

/-- The colon in front of a type is the first one, and the comma behind it the last one before a
blank. -/
theorem behindLabelled_inj (h : ∀ pair ∈ pairs, LabelText pair)
    (h' : ∀ pair ∈ listed, LabelText pair) (heq : behindLabelled pairs = behindLabelled listed) :
    pairs = listed := by
  induction pairs generalizing listed with
  | nil =>
    cases listed with
    | nil => rfl
    | cons => cases heq
  | cons pair rest ih =>
    cases listed with
    | nil => cases heq
    | cons other others =>
      obtain ⟨hpair, hrest⟩ := List.forall_mem_cons.mp h
      obtain ⟨hother, hothers⟩ := List.forall_mem_cons.mp h'
      have htext := (List.cons.inj (List.cons.inj heq).2).2
      rw [toList_labelledList_cons, toList_labelledList_cons] at htext
      obtain ⟨hlabel, hbehind⟩ := cut_inj hpair.colon_not_mem hother.colon_not_mem htext
      obtain ⟨htype, htail⟩ := hpair.type.append_inj hother.type (endsType_behindLabelled rest)
        (endsType_behindLabelled others) (List.cons.inj hbehind).2
      have heqPair : pair = other :=
        Prod.ext (String.toList_inj.mp hlabel) (String.toList_inj.mp htype)
      rw [heqPair, ih hrest hothers htail]

theorem labelledList_cons_ne_nil (pair : String × String) (rest : List (String × String)) :
    labelledList (pair :: rest) ≠ labelledList [] := by
  intro heq
  have htext := congrArg String.toList heq
  rw [toList_labelledList_cons] at htext
  simp [labelledList] at htext

/-- A list shows every label and every type, in order. -/
theorem labelledList_inj (h : ∀ pair ∈ pairs, LabelText pair)
    (h' : ∀ pair ∈ listed, LabelText pair) (heq : labelledList pairs = labelledList listed) :
    pairs = listed := by
  cases pairs with
  | nil =>
    cases listed with
    | nil => rfl
    | cons other others => exact absurd heq.symm (labelledList_cons_ne_nil other others)
  | cons pair rest =>
    cases listed with
    | nil => exact absurd heq (labelledList_cons_ne_nil pair rest)
    | cons other others => exact behindLabelled_inj h h' (by simp only [behindLabelled, heq])

/-- A field has an identifier as its name, and the text of a type. -/
structure FieldText (field : ResolvedField) : Prop where
  name : Identifier.Spells field.name.toList
  type : TypeText field.type.toList

variable {field other : ResolvedField} {fields others : List ResolvedField}

theorem FieldText.colon_not_mem (h : FieldText field) :
    ':' ∉ (Identifier.escape field.name).toList :=
  h.name.not_mem_escape (by decide) (by decide)

theorem FieldText.newline_not_mem_escape (h : FieldText field) :
    '\n' ∉ (Identifier.escape field.name).toList :=
  h.name.not_mem_escape (by decide) (by decide)

theorem FieldText.newline_not_mem (h : FieldText field) : '\n' ∉ (typedField field).toList := by
  simp [typedField, h.newline_not_mem_escape, h.type.newline_not_mem]

end Source

/-- What a source shows of a field: its identifier and its type. -/
def ResolvedField.emitted (field : ResolvedField) : String × String :=
  (Identifier.escape field.name, field.type)

namespace Source

variable {field other : ResolvedField} {fields others : List ResolvedField}

theorem FieldText.emitted (h : FieldText field) : LabelText field.emitted :=
  ⟨h.colon_not_mem, h.type⟩

theorem typedFields_eq_labelledList (fields : List ResolvedField) :
    typedFields fields = labelledList (fields.map (·.emitted)) := by
  rw [labelledList, List.map_map]
  rfl

theorem toList_typedField (field : ResolvedField) : (typedField field).toList =
    (Identifier.escape field.name).toList ++ ':' :: ' ' :: field.type.toList := by
  simp [typedField]

theorem typedField_inj (h : FieldText field) (h' : FieldText other)
    (heq : typedField field = typedField other) : field.emitted = other.emitted := by
  have htext := congrArg String.toList heq
  rw [toList_typedField, toList_typedField] at htext
  obtain ⟨hname, htype⟩ := cut_inj h.colon_not_mem h'.colon_not_mem htext
  exact Prod.ext (String.toList_inj.mp hname) (String.toList_inj.mp (List.cons.inj htype).2)

/-- What stands in a list behind its first field. -/
def behindField (fields : List ResolvedField) : List Char :=
  if fields.isEmpty then [] else ',' :: ' ' :: (typedFields fields).toList

theorem toList_typedFields_cons (field : ResolvedField) (rest : List ResolvedField) :
    (typedFields (field :: rest)).toList = (Identifier.escape field.name).toList ++
      ':' :: ' ' :: (field.type.toList ++ behindField rest) := by
  cases rest with
  | nil => simp [typedFields, behindField, toList_typedField]
  | cons next rest =>
    simp [typedFields, behindField, toList_typedField, String.intercalate_cons_cons]

theorem newline_not_mem_typedFields (h : ∀ field ∈ fields, FieldText field) :
    '\n' ∉ (typedFields fields).toList := by
  induction fields with
  | nil => simp [typedFields]
  | cons field fields ih =>
    obtain ⟨hfield, hfields⟩ := List.forall_mem_cons.mp h
    have hbehind : '\n' ∉ behindField fields := by
      unfold behindField
      split
      · simp
      · simpa using ih hfields
    simp [toList_typedFields_cons, hfield.newline_not_mem_escape, hfield.type.newline_not_mem,
      hbehind]

/-- A list of typed fields shows every identifier and every type, in order. -/
theorem typedFields_inj (h : ∀ field ∈ fields, FieldText field)
    (h' : ∀ field ∈ others, FieldText field) (heq : typedFields fields = typedFields others) :
    fields.map (·.emitted) = others.map (·.emitted) := by
  rw [typedFields_eq_labelledList, typedFields_eq_labelledList] at heq
  exact labelledList_inj (List.forall_mem_map.mpr fun field hfield => (h field hfield).emitted)
    (List.forall_mem_map.mpr fun field hfield => (h' field hfield).emitted) heq

variable {resolver : Resolver} {name : String}

theorem typeText_of_dyn (front : String) {back : String} (hfront : Solid front.toList)
    (hback : Solid back.toList) : TypeText (front ++ "<dyn " ++ back ++ ">").toList := by
  have htext : (front ++ "<dyn " ++ back ++ ">").toList =
      (front.toList ++ "<dyn".toList) ++ ' ' :: (back.toList ++ ['>']) := by
    simp [String.toList_append]
  rw [htext]
  refine .pair (hfront.append (by decide +kernel)) ?_ (hback.append (solid_singleton (by decide)))
  rw [List.getLast?_append_of_ne_nil _ (by decide)]
  decide

theorem solid_typeName (handle : SharedHandle) : Solid handle.typeName.toList := by
  cases handle <;> decide +kernel

theorem typeText_dynamicHandle (resolver : Resolver) : TypeText resolver.dynamicHandle.toList := by
  have hdynamic : Solid dynamicType.toList := by decide +kernel
  unfold Resolver.dynamicHandle
  split
  · have htext : resolver.handle.wrap ("dyn " ++ dynamicType) =
        resolver.handle.typeName ++ "<dyn " ++ dynamicType ++ ">" := by
      cases resolver.handle <;> rfl
    rw [htext]
    exact typeText_of_dyn resolver.handle.typeName (solid_typeName resolver.handle) hdynamic
  · exact typeText_of_dyn "Box" (by decide +kernel) hdynamic

theorem typeText_familyHandle (resolver : Resolver) (h : Solid name.toList) :
    TypeText (resolver.familyHandle name).toList := by
  unfold Resolver.familyHandle
  split
  · have htext : (resolver.handle.wrap name).toList =
        resolver.handle.typeName.toList ++ (['<'] ++ (name.toList ++ ['>'])) := by
      simp [SharedHandle.wrap]
    rw [htext]
    have hclosed := h.append (solid_singleton (c := '>') (by decide))
    exact .word ((solid_typeName resolver.handle).append
      ((solid_singleton (by decide)).append hclosed))
  · exact typeText_of_dyn "Box" (by decide +kernel) h

/-- A declared type is a word, and what it becomes is the text of a type. -/
theorem typeText_of_maps {family declared type : String} {kind : TypeKind}
    (h : Resolver.Maps resolver family declared type kind) (hsolid : Solid declared.toList) :
    TypeText type.toList := by
  cases h with
  | dynamic => exact typeText_dynamicHandle resolver
  | selfReference => exact typeText_familyHandle resolver hsolid
  | crossFamily => exact typeText_familyHandle resolver hsolid
  | final => exact .word hsolid

end Source

theorem Field.Spells.solid_type {fragment : List Char} {field : Field}
    (h : Field.Spells fragment field) : Solid field.type.toList := by
  obtain ⟨⟨-, htype, -, -, -, -⟩, -, -⟩ := h
  refine ⟨by simpa using htype.1, fun c hc => ?_⟩
  simp only [String.toList_ofList, List.mem_map] at hc
  obtain ⟨source, hsource, rfl⟩ := hc
  split
  · decide
  · exact htype.2 source hsource

theorem Variant.Spells.types_solid {cs : List Char} {variant : Variant} (h : Spells cs variant) :
    ∀ field ∈ variant.fields, Solid field.type.toList := by
  obtain ⟨-, _ | ⟨-, hfields, -⟩⟩ := h
  · simp
  · intro field hfield
    obtain ⟨fragment, hfragment⟩ := exists_of_forall₂_of_mem hfields.flip hfield
    exact hfragment.solid_type

/-- The fields of an accepted family are resolved to fields that can be read back. -/
theorem fieldText_of_resolveFamily {resolver : Resolver} {entries : List String} {family : Family}
    {resolved : ResolvedFamily} (h : ClashFree entries family.variants)
    (hresolved : resolver.resolveFamily family = .ok resolved) :
    ∀ variant ∈ resolved.variants, ∀ field ∈ variant.fields, Source.FieldText field := by
  have hread : ∀ field ∈ family.variants.flatMap (·.fields),
      Identifier.Spells field.name.toList ∧ Solid field.type.toList := by
    intro field hfield
    obtain ⟨variant, hvariant, hmem⟩ := List.mem_flatMap.mp hfield
    obtain ⟨entry, hentry⟩ := exists_of_forall₂_of_mem h.read.flip hvariant
    have hspelled := Variant.parse_eq_ok_iff.mp hentry
    exact ⟨hspelled.fields_spelled.1 field hmem, hspelled.types_solid field hmem⟩
  have hfields := (forall₂_congr_left fun field hfield _ =>
    (and_iff_right (hread field hfield)).symm).mp (Resolver.forall₂_fields hresolved)
  intro variant hvariant field hfield
  obtain ⟨source, ⟨hname, hsolid⟩, hresultName, -, hmaps⟩ :=
    exists_of_forall₂_of_mem hfields.flip (List.mem_flatMap.mpr ⟨variant, hvariant, hfield⟩)
  exact ⟨hresultName ▸ hname, Source.typeText_of_maps hmaps hsolid⟩

end TreeTypes
