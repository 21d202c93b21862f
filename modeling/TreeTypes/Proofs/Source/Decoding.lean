import TreeTypes.Proofs.Source.TypedFields
import TreeTypes.Source.Generate

/-!
# Reading definitions back

The definitions of a family show its variants and, for every variant, the identifiers and the types
of its fields. Both layouts can be read back from the front: a name ends at a character that no name
holds, the rows of a block end at the line with the closing brace, and no row holds a line break.
-/

namespace TreeTypes

open Text

/-- What a source shows of a variant: its name, and its fields in order. -/
def ResolvedVariant.emitted (variant : ResolvedVariant) : String × List (String × String) :=
  (variant.name, variant.fields.map (·.emitted))

namespace Source

theorem textOfLines_cons (line : String) (rest : List String) :
    textOfLines (line :: rest) = line ++ "\n" ++ textOfLines rest := by
  rw [textOfLines, List.map_cons, String.join_cons, textOfLines]

theorem textOfLines_append (lines rest : List String) :
    textOfLines (lines ++ rest) = textOfLines lines ++ textOfLines rest := by
  rw [textOfLines, List.map_append, String.join_append, textOfLines, textOfLines]

variable {line other : String} {lines rest rest' : List String}

/-- The lines in front of a text can be taken away. -/
theorem textOfLines_append_inj :
    textOfLines (lines ++ rest) = textOfLines (lines ++ rest') ↔
      textOfLines rest = textOfLines rest' := by
  rw [textOfLines_append, textOfLines_append, String.append_right_inj]

/-- The first line of a text ends at the first line break. -/
theorem textOfLines_cons_inj (h : '\n' ∉ line.toList) (h' : '\n' ∉ other.toList)
    (heq : textOfLines (line :: rest) = textOfLines (other :: rest')) :
    line = other ∧ textOfLines rest = textOfLines rest' := by
  have htext : line.toList ++ '\n' :: (textOfLines rest).toList =
      other.toList ++ '\n' :: (textOfLines rest').toList := by
    simpa [textOfLines_cons] using congrArg String.toList heq
  obtain ⟨hline, hrest⟩ := cut_inj h h' htext
  exact ⟨String.toList_inj.mp hline, String.toList_inj.mp hrest⟩

/-- Rows of a block, one for each item: none is the line with the closing brace, and each shows what
stands in it. -/
structure Rows {α β : Type} (Valid : α → Prop) (row : α → String) (shown : α → β) : Prop where
  newline_not_mem {item : α} : Valid item → '\n' ∉ (row item).toList
  ne_closing {item : α} : Valid item → row item ≠ "\x7d"
  inj {item other : α} : Valid item → Valid other → row item = row other → shown item = shown other

/-- A block of rows shows what stands in them, and ends at the closing brace. -/
theorem Rows.block_inj {α β : Type} {Valid : α → Prop} {row : α → String} {shown : α → β}
    (hrows : Rows Valid row shown) {items others : List α} (h : ∀ item ∈ items, Valid item)
    (h' : ∀ item ∈ others, Valid item)
    (heq : textOfLines (items.map row ++ "\x7d" :: rest) =
      textOfLines (others.map row ++ "\x7d" :: rest')) :
    items.map shown = others.map shown ∧ textOfLines rest = textOfLines rest' := by
  have hclosing : '\n' ∉ "\x7d".toList := by decide
  induction items generalizing others with
  | nil =>
    cases others with
    | nil => exact ⟨rfl, (textOfLines_cons_inj hclosing hclosing heq).2⟩
    | cons other others =>
      obtain ⟨hother, -⟩ := List.forall_mem_cons.mp h'
      have hline := (textOfLines_cons_inj hclosing (hrows.newline_not_mem hother) heq).1
      exact absurd hline.symm (hrows.ne_closing hother)
  | cons item items ih =>
    obtain ⟨hitem, hitems⟩ := List.forall_mem_cons.mp h
    cases others with
    | nil =>
      have hline := (textOfLines_cons_inj (hrows.newline_not_mem hitem) hclosing heq).1
      exact absurd hline (hrows.ne_closing hitem)
    | cons other others =>
      obtain ⟨hother, hothers⟩ := List.forall_mem_cons.mp h'
      obtain ⟨hline, htext⟩ := textOfLines_cons_inj (hrows.newline_not_mem hitem)
        (hrows.newline_not_mem hother) heq
      obtain ⟨hshown, hrest⟩ := ih hitems hothers htext
      exact ⟨by rw [List.map_cons, List.map_cons, hrows.inj hitem hother hline, hshown], hrest⟩

/-- A variant has an identifier as its name, and fields that can be read back. -/
structure VariantText (variant : ResolvedVariant) : Prop where
  name : Identifier.Spells variant.name.toList
  fields : ∀ field ∈ variant.fields, FieldText field

variable {field field' : ResolvedField} {fields others : List ResolvedField}
variable {variant variant' : ResolvedVariant} {variants variants' : List ResolvedVariant}

theorem typedField_congr (h : field.emitted = field'.emitted) :
    typedField field = typedField field' := by
  obtain ⟨hname, htype⟩ := Prod.mk.inj h
  rw [typedField, typedField, hname, htype]

theorem typedFields_congr (h : fields.map (·.emitted) = others.map (·.emitted)) :
    typedFields fields = typedFields others :=
  congrArg (String.intercalate ", ") (map_eq_map_of_map_eq typedField_congr h)

theorem fieldNames_congr (h : fields.map (·.emitted) = others.map (·.emitted)) :
    fieldNames fields = fieldNames others :=
  congrArg (String.intercalate ", ")
    (map_eq_map_of_map_eq (fun hfield => (Prod.mk.inj hfield).1) h)

theorem isEmpty_congr (h : fields.map (·.emitted) = others.map (·.emitted)) :
    fields.isEmpty = others.isEmpty := by
  simpa only [List.isEmpty_map] using congrArg List.isEmpty h

theorem literalBody_congr (h : fields.map (·.emitted) = others.map (·.emitted)) :
    literalBody fields = literalBody others := by
  rw [literalBody, literalBody, isEmpty_congr h, fieldNames_congr h]

/-- The rows that declare the fields of a structure. -/
theorem fieldRows : Rows FieldText (fun field => "    pub " ++ typedField field ++ ",")
    (·.emitted) where
  newline_not_mem h := by simp [h.newline_not_mem]
  ne_closing _ h := by simpa using congrArg (·.toList.head?) h
  inj h h' heq := by
    rw [String.append_left_inj, String.append_right_inj] at heq
    exact typedField_inj h h' heq

namespace OpenPolymorphic

variable {options : SourceOptions} {family : String}

/-- The name of a variant ends at a character that no name holds. -/
theorem exists_declaration (options : SourceOptions) (family : String) :
    ∃ (front : String) (stop : Char), Identifier.isLater stop = false ∧
      ∀ (variant : ResolvedVariant) (rest : List String), ∃ more : List Char,
        (textOfLines (variantLines options family variant ++ rest)).toList =
          front.toList ++ (variant.name.toList ++ stop :: more) := by
  by_cases hdocs : options.docs = true
  · refine ⟨"/// `", '`', by decide, fun variant rest => ?_⟩
    simp [variantLines, hdocs, textOfLines_cons]
  · refine ⟨"pub struct ", ' ', by decide, fun variant rest => ?_⟩
    by_cases hfields : variant.fields.isEmpty = true <;>
      simp [variantLines, structureLines, hdocs, hfields, textOfLines_cons]

theorem variantLines_name_inj (h : VariantText variant) (h' : VariantText variant')
    (heq : textOfLines (variantLines options family variant ++ rest) =
      textOfLines (variantLines options family variant' ++ rest')) :
    variant.name = variant'.name := by
  obtain ⟨front, stop, hstop, hfront⟩ := exists_declaration options family
  obtain ⟨more, hmore⟩ := hfront variant rest
  obtain ⟨more', hmore'⟩ := hfront variant' rest'
  have htext := congrArg String.toList heq
  rw [hmore, hmore', List.append_cancel_left_eq] at htext
  exact String.toList_inj.mp (cut_inj (h.name.not_mem hstop) (h'.name.not_mem hstop) htext).1

theorem structureLines_of_nil (h : variant.fields = []) :
    structureLines variant = ["pub struct " ++ variant.name ++ " \x7b\x7d"] := by
  simp [structureLines, h, emptyBraces, String.append_assoc]

theorem structureLines_of_ne_nil (h : variant.fields ≠ []) :
    structureLines variant = ["pub struct " ++ variant.name ++ " \x7b"] ++
      (variant.fields.map (fun field => "    pub " ++ typedField field ++ ",") ++ ["\x7d"]) := by
  simp [structureLines, h]

/-- The braces of a structure without fields stand on the line of its name. -/
theorem textOfLines_structureLines_ne (h : '\n' ∉ variant.name.toList)
    (hname : variant.name = variant'.name) (hfields : variant.fields = [])
    (hfields' : variant'.fields ≠ []) :
    textOfLines (structureLines variant ++ rest) ≠
      textOfLines (structureLines variant' ++ rest') := by
  rw [structureLines_of_nil hfields, structureLines_of_ne_nil hfields', ← hname]
  intro heq
  have hline := (textOfLines_cons_inj (by simp [h]) (by simp [h]) heq).1
  simp [← String.toList_inj] at hline

/-- The declaration of a structure shows its fields. -/
theorem structureLines_inj (h : VariantText variant) (h' : VariantText variant')
    (hname : variant.name = variant'.name)
    (heq : textOfLines (structureLines variant ++ rest) =
      textOfLines (structureLines variant' ++ rest')) :
    variant.emitted = variant'.emitted ∧ textOfLines rest = textOfLines rest' := by
  have hline : '\n' ∉ variant.name.toList := h.name.not_mem (by decide)
  by_cases hfields : variant.fields = []
  · by_cases hfields' : variant'.fields = []
    · rw [structureLines_of_nil hfields, structureLines_of_nil hfields', ← hname,
        textOfLines_append_inj] at heq
      exact ⟨by simp [ResolvedVariant.emitted, hname, hfields, hfields'], heq⟩
    · exact absurd heq (textOfLines_structureLines_ne hline hname hfields hfields')
  · by_cases hfields' : variant'.fields = []
    · exact absurd heq.symm
        (textOfLines_structureLines_ne (hname ▸ hline) hname.symm hfields' hfields)
    · rw [structureLines_of_ne_nil hfields, structureLines_of_ne_nil hfields', ← hname] at heq
      simp only [List.append_assoc, textOfLines_append_inj] at heq
      obtain ⟨hshown, hrest⟩ := fieldRows.block_inj h.fields h'.fields heq
      exact ⟨Prod.ext hname hshown, hrest⟩

theorem structureLines_congr (h : variant.emitted = variant'.emitted) :
    structureLines variant = structureLines variant' := by
  obtain ⟨hname, hfields⟩ := Prod.mk.inj h
  rw [structureLines, structureLines, hname, isEmpty_congr hfields,
    map_eq_map_of_map_eq (fun hfield => by rw [typedField_congr hfield]) hfields]

theorem constructorLines_congr (h : variant.emitted = variant'.emitted) :
    constructorLines variant = constructorLines variant' := by
  obtain ⟨hname, hfields⟩ := Prod.mk.inj h
  rw [constructorLines, constructorLines, hname, typedFields_congr hfields,
    literalBody_congr hfields]

/-- The definitions of a variant show it, and end where the next variant begins. -/
theorem variantLines_inj (h : VariantText variant) (h' : VariantText variant')
    (heq : textOfLines (variantLines options family variant ++ rest) =
      textOfLines (variantLines options family variant' ++ rest')) :
    variant.emitted = variant'.emitted ∧ textOfLines rest = textOfLines rest' := by
  have hname := variantLines_name_inj h h' heq
  simp only [variantLines, List.append_assoc, hname] at heq
  rw [textOfLines_append_inj] at heq
  obtain ⟨hemitted, hbehind⟩ := structureLines_inj h h' hname heq
  rw [constructorLines_congr hemitted] at hbehind
  simp only [textOfLines_append_inj] at hbehind
  exact ⟨hemitted, hbehind⟩

theorem variantLines_congr (h : variant.emitted = variant'.emitted) :
    variantLines options family variant = variantLines options family variant' := by
  have hname : variant.name = variant'.name := (Prod.mk.inj h).1
  simp only [variantLines, structureLines_congr h, constructorLines_congr h, hname]

/-- The definitions of the variants end with the text, for each of them begins with an empty
line. -/
theorem variants_inj (h : ∀ variant ∈ variants, VariantText variant)
    (h' : ∀ variant ∈ variants', VariantText variant)
    (heq : textOfLines (variants.flatMap fun variant => "" :: variantLines options family variant) =
      textOfLines
        (variants'.flatMap fun variant => "" :: variantLines options family variant)) :
    variants.map (·.emitted) = variants'.map (·.emitted) := by
  induction variants generalizing variants' with
  | nil =>
    cases variants' with
    | nil => rfl
    | cons variant' variants' => simp [textOfLines] at heq
  | cons variant variants ih =>
    cases variants' with
    | nil => simp [textOfLines] at heq
    | cons variant' variants' =>
      obtain ⟨hvariant, hvariants⟩ := List.forall_mem_cons.mp h
      obtain ⟨hvariant', hvariants'⟩ := List.forall_mem_cons.mp h'
      rw [List.flatMap_cons, List.flatMap_cons, List.cons_append, List.cons_append] at heq
      obtain ⟨-, htext⟩ := textOfLines_cons_inj (by simp) (by simp) heq
      obtain ⟨hemitted, hrest⟩ := variantLines_inj hvariant hvariant' htext
      rw [List.map_cons, List.map_cons, hemitted, ih hvariants hvariants' hrest]

/-- The definitions of a family in the open layout show its variants, and nothing else of it but
its name. -/
theorem definitions_inj {resolved result : ResolvedFamily} (hname : resolved.name = result.name)
    (h : ∀ variant ∈ resolved.variants, VariantText variant)
    (h' : ∀ variant ∈ result.variants, VariantText variant) :
    textOfLines (definitions options resolved) = textOfLines (definitions options result) ↔
      resolved.variants.map (·.emitted) = result.variants.map (·.emitted) := by
  rw [definitions, definitions, hname, textOfLines_append_inj]
  refine ⟨variants_inj h h', fun heq => ?_⟩
  rw [List.flatMap_def, List.flatMap_def,
    map_eq_map_of_map_eq (fun hvariant => by rw [variantLines_congr hvariant]) heq]

end OpenPolymorphic

namespace ClosedUnion

variable {options : SourceOptions} {policy : Policy} {handle : SharedHandle}

theorem braced_ne_emptyBraces (inner : String) : braced inner ≠ emptyBraces := by
  intro heq
  have hsecond := congrArg (·.toList[1]?) heq
  simp [braced, emptyBraces] at hsecond

/-- The braces of a case show its fields. -/
theorem braces_inj (h : ∀ field ∈ fields, FieldText field) (h' : ∀ field ∈ others, FieldText field)
    (heq : (if fields.isEmpty then emptyBraces else braced (typedFields fields)) =
      if others.isEmpty then emptyBraces else braced (typedFields others)) :
    fields.map (·.emitted) = others.map (·.emitted) := by
  by_cases hfields : fields = []
  · by_cases hothers : others = []
    · rw [hfields, hothers]
    · simp only [hfields, List.isEmpty_nil, if_true, List.isEmpty_iff, if_neg hothers] at heq
      exact absurd heq.symm (braced_ne_emptyBraces (typedFields others))
  · by_cases hothers : others = []
    · simp only [hothers, List.isEmpty_nil, if_true, List.isEmpty_iff, if_neg hfields] at heq
      exact absurd heq (braced_ne_emptyBraces (typedFields fields))
    · simp only [List.isEmpty_iff, if_neg hfields, if_neg hothers, braced, String.append_left_inj,
        String.append_right_inj] at heq
      exact typedFields_inj h h' heq

theorem toList_caseLine (variant : ResolvedVariant) : (caseLine variant).toList =
    "    ".toList ++ (variant.name.toList ++ ' ' ::
      ((if variant.fields.isEmpty then emptyBraces
        else braced (typedFields variant.fields)).toList ++ [','])) := by
  simp [caseLine]

/-- The rows that declare the cases of an enumeration. -/
theorem caseRows : Rows VariantText caseLine (·.emitted) where
  newline_not_mem h := by
    have hname : '\n' ∉ _ := h.name.not_mem (by decide)
    have hfields := newline_not_mem_typedFields h.fields
    rw [toList_caseLine]
    split <;> simp [emptyBraces, braced, hname, hfields]
  ne_closing _ h := by simpa [caseLine] using congrArg (·.toList.head?) h
  inj h h' heq := by
    have htext := congrArg String.toList heq
    rw [toList_caseLine, toList_caseLine, List.append_cancel_left_eq] at htext
    obtain ⟨hname, hbody⟩ :=
      cut_inj (h.name.not_mem (by decide)) (h'.name.not_mem (by decide)) htext
    have hfields := braces_inj h.fields h'.fields
      (String.toList_inj.mp (List.append_cancel_right hbody))
    exact Prod.ext (String.toList_inj.mp hname) hfields

theorem caseLine_congr (h : variant.emitted = variant'.emitted) :
    caseLine variant = caseLine variant' := by
  obtain ⟨hname, hfields⟩ := Prod.mk.inj h
  rw [caseLine, caseLine, hname, isEmpty_congr hfields, typedFields_congr hfields]

theorem constructorLines_congr {family : String} (h : variant.emitted = variant'.emitted) :
    constructorLines options policy handle family variant =
      constructorLines options policy handle family variant' := by
  obtain ⟨hname, hfields⟩ := Prod.mk.inj h
  simp only [constructorLines, returned, caseLiteral, hname, typedFields_congr hfields,
    literalBody_congr hfields]

/-- The definitions of a family in the closed layout show its variants, and nothing else of it but
its name. -/
theorem definitions_inj {resolved result : ResolvedFamily} (hname : resolved.name = result.name)
    (h : ∀ variant ∈ resolved.variants, VariantText variant)
    (h' : ∀ variant ∈ result.variants, VariantText variant) :
    textOfLines (definitions options policy handle resolved) =
        textOfLines (definitions options policy handle result) ↔
      resolved.variants.map (·.emitted) = result.variants.map (·.emitted) := by
  constructor
  · intro heq
    simp only [definitions, enumeration, hname, List.append_assoc, textOfLines_append_inj] at heq
    exact (caseRows.block_inj h h' heq).1
  · intro heq
    rw [definitions, definitions, enumeration, enumeration, constructorBlock, constructorBlock,
      hname, map_eq_map_of_map_eq caseLine_congr heq,
      map_eq_map_of_map_eq constructorLines_congr heq]

end ClosedUnion

variable {name : String} {entries others : List String} {family other : Family}
variable {resolver : Resolver} {resolved result : ResolvedFamily}

theorem variantText_of_parse (h : Family.parse name entries = .ok family)
    (hresolved : resolver.resolveFamily family = .ok resolved) :
    ∀ variant ∈ resolved.variants, VariantText variant := by
  have hfamily := (Family.parse_eq_ok_iff.mp h).2
  intro variant hvariant
  exact ⟨(Family.resolved_names_spelled hfamily hresolved variant hvariant).1,
    fieldText_of_resolveFamily hfamily hresolved variant hvariant⟩

/-- Two accepted families of one name that are resolved under one resolver have the same definitions
exactly if they have the same variants in the same order, and every variant has the same
identifiers and types of fields in the same order. -/
theorem definitions_eq_iff (h : Family.parse name entries = .ok family)
    (h' : Family.parse name others = .ok other)
    (hresolved : resolver.resolveFamily family = .ok resolved)
    (hresult : resolver.resolveFamily other = .ok result) (strategy : Strategy)
    (options : SourceOptions) :
    textOfLines (definitions strategy options resolver resolved) =
        textOfLines (definitions strategy options resolver result) ↔
      resolved.variants.map (·.emitted) = result.variants.map (·.emitted) := by
  have hname : resolved.name = result.name := by
    rw [(Resolver.resolveFamily_eq_ok_iff.mp hresolved).1,
      (Resolver.resolveFamily_eq_ok_iff.mp hresult).1, (Family.parse_eq_ok_iff.mp h).1,
      (Family.parse_eq_ok_iff.mp h').1]
  have hvariants := variantText_of_parse h hresolved
  have hvariants' := variantText_of_parse h' hresult
  cases strategy with
  | closedUnion => exact ClosedUnion.definitions_inj hname hvariants hvariants'
  | openPolymorphic => exact OpenPolymorphic.definitions_inj hname hvariants hvariants'

/-- A family of one variant with two fields. -/
def pair (left right : String) : Family :=
  ⟨"Expr", [⟨"Pair", [⟨"left", left⟩, ⟨"right", right⟩]⟩]⟩

/-- A resolver that shares nodes and knows no other family. -/
def pairResolver : Resolver := ⟨.shared, .rc, [], []⟩

/-- Two ways to declare one handle give the same definitions. A comma at the end of a type is told
apart from the comma behind the field. -/
theorem pair_definitions :
    Family.parse "Expr" ["Pair : Expr left, Rc<Expr> right"] = .ok (pair "Expr" "Rc<Expr>") ∧
    Family.parse "Expr" ["Pair : Rc<Expr> left, Expr right"] = .ok (pair "Rc<Expr>" "Expr") ∧
    Family.parse "Expr" ["Pair : Rc<Expr>- left, Expr right"] = .ok (pair "Rc<Expr>," "Expr") ∧
    ∃ first second third : ResolvedFamily,
      pairResolver.resolveFamily (pair "Expr" "Rc<Expr>") = .ok first ∧
      pairResolver.resolveFamily (pair "Rc<Expr>" "Expr") = .ok second ∧
      pairResolver.resolveFamily (pair "Rc<Expr>," "Expr") = .ok third ∧
      textOfLines (definitions .closedUnion {} pairResolver first) =
        textOfLines (definitions .closedUnion {} pairResolver second) ∧
      textOfLines (definitions .openPolymorphic {} pairResolver first) ≠
        textOfLines (definitions .openPolymorphic {} pairResolver third) := by
  have hfirst : Family.parse "Expr" ["Pair : Expr left, Rc<Expr> right"] =
      .ok (pair "Expr" "Rc<Expr>") := by decide +kernel
  have hsecond : Family.parse "Expr" ["Pair : Rc<Expr> left, Expr right"] =
      .ok (pair "Rc<Expr>" "Expr") := by decide +kernel
  have hthird : Family.parse "Expr" ["Pair : Rc<Expr>- left, Expr right"] =
      .ok (pair "Rc<Expr>," "Expr") := by decide +kernel
  refine ⟨hfirst, hsecond, hthird, _, _, _, rfl, rfl, rfl, ?_, ?_⟩
  · exact (definitions_eq_iff hfirst hsecond rfl rfl .closedUnion {}).mpr (by decide +kernel)
  · exact (definitions_eq_iff hfirst hthird rfl rfl .openPolymorphic {}).not.mpr (by decide +kernel)

end Source

end TreeTypes
