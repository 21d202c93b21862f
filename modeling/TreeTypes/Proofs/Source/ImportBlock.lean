import TreeTypes.Proofs.Source.Generation
import TreeTypes.Proofs.Source.Imports
import TreeTypes.Proofs.Source.Lines
import TreeTypes.Proofs.Text.ByteOrder
import TreeTypes.Proofs.Text.Words

/-!
# The place of the import block

The generated imports stand behind the prelude, and no other generated line begins like an import.
They are in the order of their bytes, each stands there once and none that the prelude holds with
blanks around it. The block imports the families that fields refer to and what the definitions need
of the standard library, and nothing else.
-/

namespace TreeTypes.Source

/-- A line begins like an import. -/
def IsImport (line : String) : Prop := "use ".toList <+: line.toList

instance (line : String) : Decidable (IsImport line) :=
  inferInstanceAs (Decidable ("use ".toList <+: line.toList))

/-- None of the lines begins like an import. -/
def NoImports (lines : List String) : Prop := ∀ line ∈ lines, ¬ IsImport line

variable {strategy : Strategy} {options : SourceOptions} {resolver : Resolver}
variable {family : ResolvedFamily} {variant : ResolvedVariant}
variable {front line modulePrefix name : String} {lines others : List String}

@[simp] theorem noImports_nil : NoImports [] := List.forall_mem_nil _

@[simp] theorem noImports_cons_iff :
    NoImports (line :: lines) ↔ ¬ IsImport line ∧ NoImports lines :=
  List.forall_mem_cons

@[simp] theorem noImports_append_iff :
    NoImports (lines ++ others) ↔ NoImports lines ∧ NoImports others :=
  List.forall_mem_append

theorem noImports_ite {p : Prop} [Decidable p] (h : NoImports lines) :
    NoImports (if p then lines else []) := by
  split
  · exact h
  · exact noImports_nil

theorem noImports_map {α : Type} {f : α → String} (h : ∀ x, ¬ IsImport (f x)) (xs : List α) :
    NoImports (xs.map f) :=
  List.forall_mem_map.mpr fun x _ => h x

/-- A line that begins in another way is no import. -/
theorem not_isImport_append (h : Diverge "use " front) (rest : String) :
    ¬ IsImport (front ++ rest) :=
  h.not_prefix_append rest

theorem noImports_banner (name : String) (strategy : Strategy) (policy : Policy) :
    NoImports (banner name strategy policy) := by
  simp only [banner, String.append_assoc, noImports_cons_iff]
  refine ⟨by decide, ?_, ?_, by decide, by decide, by decide, noImports_nil⟩
  · exact not_isImport_append (by decide) _
  · exact not_isImport_append (by decide) _

namespace ClosedUnion

variable (options : SourceOptions) (policy : Policy) (handle : SharedHandle)

theorem noImports_enumeration (family : ResolvedFamily) :
    NoImports (enumeration options family) := by
  simp only [enumeration, noImports_append_iff, noImports_cons_iff, String.append_assoc]
  refine ⟨⟨⟨noImports_ite ?_, ?_, ?_, noImports_nil⟩, noImports_map (fun variant => ?_) _⟩,
    by decide, noImports_nil⟩
  · exact noImports_cons_iff.mpr ⟨not_isImport_append (by decide) _, noImports_nil⟩
  · exact not_isImport_append (by decide) _
  · exact not_isImport_append (by decide) _
  · rw [caseLine]
    simp only [String.append_assoc]
    exact not_isImport_append (by decide) _

theorem noImports_constructorLines (family : String) (variant : ResolvedVariant) :
    NoImports (constructorLines options policy handle family variant) := by
  simp only [constructorLines, noImports_append_iff, noImports_cons_iff, String.append_assoc]
  refine ⟨noImports_ite ?_, ?_, ?_, by decide, noImports_nil⟩
  · exact noImports_cons_iff.mpr ⟨not_isImport_append (by decide) _, noImports_nil⟩
  · exact not_isImport_append (by decide) _
  · exact not_isImport_append (by decide) _

theorem noImports_constructorBlock (family : ResolvedFamily) :
    NoImports (constructorBlock options policy handle family) := by
  simp only [constructorBlock, noImports_append_iff, noImports_cons_iff, String.append_assoc]
  refine ⟨⟨⟨not_isImport_append (by decide) _, noImports_nil⟩, fun line hline => ?_⟩,
    by decide, noImports_nil⟩
  rcases Text.mem_of_mem_intercalate hline with rfl | ⟨piece, hpiece, hmem⟩
  · decide
  · obtain ⟨variant, -, rfl⟩ := List.mem_map.mp hpiece
    exact noImports_constructorLines options policy handle family.name variant line hmem

theorem noImports_formatter (family : String) : NoImports (formatter family) := by
  simp only [formatter, noImports_cons_iff, String.append_assoc]
  exact ⟨not_isImport_append (by decide) _, by decide, by decide, by decide, by decide,
    noImports_nil⟩

theorem noImports_definitions (family : ResolvedFamily) :
    NoImports (definitions options policy handle family) := by
  have hempty : NoImports [""] := by simp [IsImport]
  simp only [definitions, noImports_append_iff]
  exact ⟨⟨⟨⟨noImports_enumeration options family, hempty⟩,
    noImports_constructorBlock options policy handle family⟩, hempty⟩,
    noImports_formatter family.name⟩

end ClosedUnion

namespace OpenPolymorphic

variable (options : SourceOptions)

theorem noImports_marker (family : String) : NoImports (marker options family) := by
  simp only [marker, noImports_append_iff, noImports_cons_iff, String.append_assoc]
  refine ⟨noImports_ite ?_, not_isImport_append (by decide) _, noImports_nil⟩
  exact noImports_cons_iff.mpr ⟨not_isImport_append (by decide) _, noImports_nil⟩

theorem noImports_structureLines (variant : ResolvedVariant) :
    NoImports (structureLines variant) := by
  unfold structureLines
  split
  · simp only [noImports_cons_iff, String.append_assoc]
    exact ⟨not_isImport_append (by decide) _, noImports_nil⟩
  · simp only [noImports_append_iff, noImports_cons_iff, String.append_assoc]
    exact ⟨⟨⟨not_isImport_append (by decide) _, noImports_nil⟩,
      noImports_map (fun field => not_isImport_append (by decide) _) _⟩, by decide, noImports_nil⟩

theorem noImports_constructorLines (variant : ResolvedVariant) :
    NoImports (constructorLines variant) := by
  simp only [constructorLines, noImports_cons_iff, String.append_assoc]
  exact ⟨not_isImport_append (by decide) _, not_isImport_append (by decide) _,
    not_isImport_append (by decide) _, by decide, by decide, noImports_nil⟩

theorem noImports_variantLines (family : String) (variant : ResolvedVariant) :
    NoImports (variantLines options family variant) := by
  simp only [variantLines, noImports_append_iff, noImports_cons_iff, String.append_assoc]
  refine ⟨⟨⟨⟨⟨noImports_ite ?_, noImports_structureLines variant⟩, by decide, noImports_nil⟩,
    noImports_constructorLines variant⟩, by decide, noImports_nil⟩, ?_, noImports_nil⟩
  · exact noImports_cons_iff.mpr ⟨not_isImport_append (by decide) _, noImports_nil⟩
  · exact not_isImport_append (by decide) _

theorem noImports_definitions (family : ResolvedFamily) :
    NoImports (definitions options family) := by
  rw [definitions, noImports_append_iff]
  refine ⟨noImports_marker options family.name, fun line hline => ?_⟩
  obtain ⟨variant, -, hmem⟩ := List.mem_flatMap.mp hline
  rcases List.mem_cons.mp hmem with rfl | hmem
  · decide
  · exact noImports_variantLines options family.name variant line hmem

end OpenPolymorphic

theorem noImports_definitions (strategy : Strategy) (options : SourceOptions) (resolver : Resolver)
    (family : ResolvedFamily) : NoImports (definitions strategy options resolver family) := by
  cases strategy with
  | closedUnion => exact ClosedUnion.noImports_definitions options _ _ family
  | openPolymorphic => exact OpenPolymorphic.noImports_definitions options family

theorem isImport_of_mem_requiredImports
    (h : line ∈ requiredImports strategy options resolver family) : IsImport line := by
  rcases mem_requiredImports_iff.mp h with hfamily | hstandard
  · obtain ⟨modulePrefix, -, name, -, rfl⟩ := mem_familyImports_iff.mp hfamily
    simp only [IsImport, familyImport, String.append_assoc, String.toList_append]
    exact List.prefix_append _ _
  · have hall : ∀ line ∈ allStandardImports, IsImport line := by decide
    exact hall line (standardImports_subset strategy resolver family hstandard)

/-- A prelude holds a line, with or without blanks around it. -/
def Holds (preludeLines : List String) (line : String) : Prop :=
  ∃ entry ∈ preludeLines, Text.Trims entry.toList line.toList

theorem holds_iff {preludeLines : List String} : Holds preludeLines line ↔
    ∃ entry ∈ preludeLines, String.ofList (Text.trim entry.toList) = line := by
  simp only [Holds, Text.trims_iff, ← String.toList_inj, String.toList_ofList]

instance (preludeLines : List String) (line : String) : Decidable (Holds preludeLines line) :=
  decidable_of_iff' _ holds_iff

theorem mem_importBlock_iff_not_holds {required preludeLines : List String} :
    line ∈ importBlock required preludeLines ↔ line ∈ required ∧ ¬ Holds preludeLines line := by
  simp only [mem_importBlock_iff, holds_iff, not_exists, not_and, ne_eq]

/-- The line between the imports and the definitions. There is none where nothing is imported. -/
def separator (preludeLines block : List String) : List String :=
  if block.isEmpty && preludeLines.isEmpty then [] else [""]

theorem noImports_separator (preludeLines block : List String) :
    NoImports (separator preludeLines block) := by
  unfold separator
  split
  · exact noImports_nil
  · simp [IsImport]

/-- The imports stand between the prelude and the definitions. -/
theorem layout_eq_append (strategy : Strategy) (options : SourceOptions) (resolver : Resolver)
    (preludeLines : List String) (family : ResolvedFamily) :
    let block := importBlock (requiredImports strategy options resolver family) preludeLines
    layout strategy options resolver preludeLines family =
      banner family.name strategy resolver.policy ++ preludeLines.map preludeLine ++ block ++
        separator preludeLines block ++ definitions strategy options resolver family := by
  simp only [layout, header, preludeBlock, separator, List.append_assoc]

/-- A prelude holds what is written of its lines, up to blanks in front. -/
theorem holds_of_mem_map_preludeLine {preludeLines : List String}
    (hfirst : ∀ c, line.toList.head? = some c → Text.isBlank c = false)
    (h : line ∈ preludeLines.map preludeLine) : Holds preludeLines line := by
  obtain ⟨entry, hentry, rfl⟩ := List.mem_map.mp h
  have hcore : (preludeLine entry).toList = Text.trimEnd entry.toList := String.toList_ofList
  -- No blank is trimmed in front, since the first character is none.
  refine ⟨entry, hentry, ⟨⟨[], entry.toList.rtakeWhile Text.isBlank, ?_, .nil, ?_⟩, hfirst, ?_⟩⟩
  · rw [hcore, Text.trimEnd_eq_rdropWhile, List.nil_append, List.rdropWhile_append_rtakeWhile]
  · exact fun c hc => List.mem_rtakeWhile_imp hc
  · exact fun c hc => Text.isBlank_of_getLast?_trimEnd (hcore ▸ hc)

/-- An import that the prelude does not hold stands in a source where it is required. -/
theorem mem_layout_iff {preludeLines : List String} (himport : IsImport line)
    (hfree : ¬ Holds preludeLines line) :
    line ∈ layout strategy options resolver preludeLines family ↔
      line ∈ requiredImports strategy options resolver family := by
  have hfirst : ∀ c, line.toList.head? = some c → Text.isBlank c = false := by
    obtain ⟨rest, hrest⟩ := himport
    rw [← hrest]
    rintro c ⟨⟩
    decide
  have hprelude : line ∉ preludeLines.map preludeLine :=
    mt (holds_of_mem_map_preludeLine hfirst) hfree
  have hbanner : line ∉ banner family.name strategy resolver.policy := fun hline =>
    noImports_banner family.name strategy resolver.policy line hline himport
  have hseparator : ∀ block, line ∉ separator preludeLines block := fun block hline =>
    noImports_separator preludeLines block line hline himport
  have hdefinitions : line ∉ definitions strategy options resolver family := fun hline =>
    noImports_definitions strategy options resolver family line hline himport
  rw [layout_eq_append]
  simp only [List.mem_append, mem_importBlock_iff_not_holds]
  grind

theorem hasDynamicFields_iff : family.hasDynamicFields = true ↔
    ∃ field ∈ family.fields, field.kind = .dynamic := by
  simp [ResolvedFamily.hasDynamicFields]

/-- The opaque payload is imported where a field holds it. No family is imported by the same line,
since a field of that type holds the payload and not the family. -/
theorem dynamicImport_mem_requiredImports_iff {source : Family}
    (hresolved : resolver.resolveFamily source = .ok family) :
    dynamicImport ∈ requiredImports strategy options resolver family ↔
      ∃ field ∈ family.fields, field.kind = .dynamic := by
  rw [← hasDynamicFields_iff, mem_requiredImports_iff]
  constructor
  · rintro (hfamily | hstandard)
    · obtain ⟨modulePrefix, -, name, hname, hline⟩ := mem_familyImports_iff.mp hfamily
      have hstandard : familyImport modulePrefix name ∈ allStandardImports := by
        rw [hline]
        decide
      obtain ⟨rfl, rfl⟩ := eq_std_of_familyImport_mem
        (Resolver.of_mem_dependencies hresolved hname).2.2 hstandard
      exact absurd hline (by decide +kernel)
    · have hother : dynamicImport ≠ formatterImport ∧
          dynamicImport ≠ resolver.handle.importLine := by
        cases resolver.handle <;> decide
      rw [mem_standardImports_iff] at hstandard
      grind
  · intro hdynamic
    exact .inr (mem_standardImports_iff.mpr (.inr ⟨hdynamic, rfl⟩))

/-- The line of a family that no field refers to is required only as one of the standard library. -/
theorem standard_of_unreferenced {source : Family}
    (hresolved : resolver.resolveFamily source = .ok family)
    (hroot : options.modulePrefix = some modulePrefix)
    (hname : ∀ field ∈ family.fields, field.kind ≠ .crossFamily name)
    (hline : familyImport modulePrefix name ∈ requiredImports strategy options resolver family) :
    familyImport modulePrefix name ∈ allStandardImports := by
  rcases mem_requiredImports_iff.mp hline with hfamily | hstandard
  · obtain ⟨other, hother, found, hfound, hsame⟩ := mem_familyImports_iff.mp hfamily
    obtain rfl := Option.some.inj (hroot.symm.trans hother)
    obtain rfl := familyImport_inj hsame
    obtain ⟨field, hfield, hkind⟩ := (Resolver.mem_dependencies_iff hresolved).mp hfound
    exact absurd hkind (hname field hfield)
  · exact standardImports_subset strategy resolver family hstandard

/-- A required import stands in the block once, unless the prelude holds it. -/
theorem count_importBlock {required preludeLines : List String} (h : line ∈ required) :
    (importBlock required preludeLines).count line = 1 ∨ Holds preludeLines line := by
  by_cases hholds : Holds preludeLines line
  · exact .inr hholds
  · exact .inl (List.count_eq_one_of_mem (nodup_importBlock required preludeLines)
      (mem_importBlock_iff_not_holds.mpr ⟨h, hholds⟩))

/-- The imports stand in the order of their bytes. -/
theorem ascending_importBlock (required preludeLines : List String) :
    (importBlock required preludeLines).Pairwise fun line other =>
      Text.bytes line < Text.bytes other :=
  ((sorted_sortedLines required).filter _).imp Text.bytes_lt_bytes

/-- A block holds the imports that a resolved family needs behind a prelude, and no others. -/
structure ImportsNeeded (strategy : Strategy) (options : SourceOptions) (resolver : Resolver)
    (preludeLines : List String) (family : ResolvedFamily) (block : List String) : Prop where
  imports : ∀ line ∈ block, IsImport line
  ascending : block.Pairwise fun line other => Text.bytes line < Text.bytes other
  fresh : ∀ line ∈ block, ¬ Holds preludeLines line
  families : ∀ modulePrefix, options.modulePrefix = some modulePrefix →
    ∀ field ∈ family.fields, ∀ name, field.kind = .crossFamily name → ∀ line,
      line = "use " ++ modulePrefix ++ "::" ++ Identifier.moduleName name ++ "::" ++ name ++ ";" →
        block.count line = 1 ∨ Holds preludeLines line
  payload : "use std::any::Any;" ∈ block ↔
    (∃ field ∈ family.fields, field.kind = .dynamic) ∧ ¬ Holds preludeLines "use std::any::Any;"
  needed : ∀ line ∈ block,
    (∃ modulePrefix, options.modulePrefix = some modulePrefix ∧
      ∃ field ∈ family.fields, ∃ name, field.kind = .crossFamily name ∧ line =
        "use " ++ modulePrefix ++ "::" ++ Identifier.moduleName name ++ "::" ++ name ++ ";") ∨
    line = "use std::any::Any;" ∨
    strategy = .closedUnion ∧ (line = "use std::fmt;" ∨ line = resolver.handle.importLine)
  unreferenced : ∀ modulePrefix, options.modulePrefix = some modulePrefix →
    ∀ name, (∀ field ∈ family.fields, field.kind ≠ .crossFamily name) →
      familyImport modulePrefix name ∈ block →
        familyImport modulePrefix name ∈ allStandardImports

variable {source : Family} {preludeLines : List String}

theorem importBlock_needed (hresolved : resolver.resolveFamily source = .ok family)
    (strategy : Strategy) (options : SourceOptions) (preludeLines : List String) :
    ImportsNeeded strategy options resolver preludeLines family
      (importBlock (requiredImports strategy options resolver family) preludeLines) where
  imports := fun _ hline =>
    isImport_of_mem_requiredImports (mem_importBlock_iff_not_holds.mp hline).1
  ascending := ascending_importBlock _ preludeLines
  fresh := fun _ hline => (mem_importBlock_iff_not_holds.mp hline).2
  families := by
    rintro modulePrefix hroot field hfield name hkind line rfl
    have hname : name ∈ family.dependencies :=
      (Resolver.mem_dependencies_iff hresolved).mpr ⟨field, hfield, hkind⟩
    exact count_importBlock (mem_requiredImports_iff.mpr
      (.inl (mem_familyImports_iff.mpr ⟨modulePrefix, hroot, name, hname, rfl⟩)))
  payload := by
    rw [← dynamicImport_mem_requiredImports_iff hresolved]
    exact mem_importBlock_iff_not_holds
  needed := by
    intro line hline
    have hrequired := (mem_importBlock_iff_not_holds.mp hline).1
    rcases mem_requiredImports_iff.mp hrequired with hfamily | hstandard
    · obtain ⟨modulePrefix, hroot, name, hname, rfl⟩ := mem_familyImports_iff.mp hfamily
      obtain ⟨field, hfield, hkind⟩ := (Resolver.mem_dependencies_iff hresolved).mp hname
      exact .inl ⟨modulePrefix, hroot, field, hfield, name, hkind, rfl⟩
    · rcases mem_standardImports_iff.mp hstandard with
        ⟨hclosed, hformatter | ⟨-, hhandle⟩⟩ | ⟨-, hdynamic⟩
      · exact .inr (.inr ⟨hclosed, .inl hformatter⟩)
      · exact .inr (.inr ⟨hclosed, .inr hhandle⟩)
      · exact .inr (.inl hdynamic)
  unreferenced := fun _ hroot _ hname hline => standard_of_unreferenced hresolved hroot hname
    (mem_importBlock_iff_not_holds.mp hline).1

/-- A generated source has its imports between the prelude and the definitions. They are those that
are needed, and neither the banner nor the definitions hold another one. -/
theorem generate_imports (hpolicy : strategy.supports resolver.policy = true)
    (hresolved : resolver.resolveFamily source = .ok family) (options : SourceOptions)
    (preludeLines : List String) : ∃ block,
      ((Generator.mk strategy options).generate resolver preludeLines source).result =
        .ok (textOfLines (banner family.name strategy resolver.policy ++
          preludeLines.map preludeLine ++ block ++ separator preludeLines block ++
          definitions strategy options resolver family)) ∧
      NoImports (banner family.name strategy resolver.policy) ∧
      NoImports (definitions strategy options resolver family) ∧
      ImportsNeeded strategy options resolver preludeLines family block := by
  refine ⟨importBlock (requiredImports strategy options resolver family) preludeLines, ?_,
    noImports_banner family.name strategy resolver.policy,
    noImports_definitions strategy options resolver family,
    importBlock_needed hresolved strategy options preludeLines⟩
  exact Generator.generate_eq_ok_iff.mpr ⟨hpolicy, family, hresolved,
    congrArg textOfLines (layout_eq_append strategy options resolver preludeLines family)⟩

/-- A family that refers to two others and holds an opaque payload. -/
def bindings : Family :=
  ⟨"Stmt", [⟨"Let", [⟨"name", "Token"⟩, ⟨"value", "Expr"⟩]⟩, ⟨"Host", [⟨"payload", "Any"⟩]⟩]⟩

/-- A resolver that counts references across threads. -/
def counting : Resolver := ⟨.shared, .arc, ["Expr", "Stmt", "Token", "Type"], []⟩

/-- What the family is resolved to. -/
def resolvedBindings : ResolvedFamily :=
  ⟨"Stmt", [⟨"Let", [⟨"name", "Token", "Arc<Token>", .crossFamily "Token"⟩,
      ⟨"value", "Expr", "Arc<Expr>", .crossFamily "Expr"⟩]⟩,
    ⟨"Host", [⟨"payload", "Any", "Arc<dyn Any>", .dynamic⟩]⟩], ["Token", "Expr"]⟩

/-- A prelude that holds two of the imports with blanks around them. -/
def spacedPrelude : List String := ["  use crate::expr::Expr; ", "", "use std::fmt;\t"]

theorem bindings_imports : ∃ block,
    ((Generator.mk .closedUnion fromRoot).generate counting spacedPrelude bindings).result =
      .ok (textOfLines (banner "Stmt" .closedUnion .shared ++ spacedPrelude.map preludeLine ++
        block ++ separator spacedPrelude block ++
        definitions .closedUnion fromRoot counting resolvedBindings)) ∧
    block.count "use crate::token::Token;" = 1 ∧ "use crate::expr::Expr;" ∉ block ∧
    "use std::any::Any;" ∈ block ∧ "use std::fmt;" ∉ block ∧
    "use crate::type::Type;" ∉ block := by
  have hpolicy : Strategy.closedUnion.supports counting.policy = true := rfl
  have hresolved : counting.resolveFamily bindings = .ok resolvedBindings := by decide +kernel
  obtain ⟨block, htext, -, -, hblock⟩ :=
    generate_imports hpolicy hresolved fromRoot spacedPrelude
  have htoken : "use crate::token::Token;" =
      "use " ++ "crate" ++ "::" ++ Identifier.moduleName "Token" ++ "::" ++ "Token" ++ ";" := by
    decide +kernel
  have htype : "use crate::type::Type;" = familyImport "crate" "Type" := by decide +kernel
  refine ⟨block, htext, ?_, ?_, ?_, ?_, ?_⟩
  · exact (hblock.families _ rfl _ (List.mem_cons_self) "Token" rfl _ htoken).resolve_right
      (by decide +kernel)
  · exact fun hline => hblock.fresh _ hline (by decide +kernel)
  · exact hblock.payload.mpr (by decide +kernel)
  · exact fun hline => hblock.fresh _ hline (by decide +kernel)
  · rw [htype]
    intro hline
    exact absurd (hblock.unreferenced _ rfl "Type" (by decide +kernel) hline) (by decide +kernel)

end TreeTypes.Source
