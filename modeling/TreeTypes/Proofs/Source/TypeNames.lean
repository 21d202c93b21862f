import TreeTypes.Proofs.Grammar.Clashes
import TreeTypes.Proofs.Resolution
import TreeTypes.Proofs.Source.Imports
import TreeTypes.Proofs.Source.Lines
import TreeTypes.Proofs.Text.SnakeCase

/-!
# Names of types in a generated file

Every import of a generated file brings a name into scope, and the definitions declare the
enumeration, or the trait and the structures. `introducedNames` reads these names off the lines. A
family is accepted when its constructors have different names, which keeps its structures apart from
each other but not from the trait or from the imports; `NamesApart` says what is needed besides.
-/

namespace TreeTypes.Source

/-- How the declaration of a type begins. -/
def typeDeclarations : List String := ["pub enum ", "pub trait ", "pub struct "]

/-- The name that a line introduces: what it imports, or the type that it declares. -/
def introducedName? (line : String) : Option String :=
  if "use ".toList <+: line.toList then some (importedName line)
  else typeDeclarations.findSome? fun start => nameBehind? start ' ' line

/-- The names that lines introduce. -/
def introducedNames (lines : List String) : List String :=
  lines.filterMap introducedName?

variable {strategy : Strategy} {options : SourceOptions} {resolver : Resolver}
variable {family : ResolvedFamily} {variant : ResolvedVariant}
variable {line name start front modulePrefix : String} {lines : List String}

theorem introducedNames_append (lines others : List String) :
    introducedNames (lines ++ others) = introducedNames lines ++ introducedNames others :=
  List.filterMap_append

theorem introducedNames_eq_nil_iff :
    introducedNames lines = [] ↔ ∀ line ∈ lines, introducedName? line = none :=
  List.filterMap_eq_nil_iff

/-- A line that begins in another way introduces no name. -/
theorem introducedName?_of_diverge (h : ∀ start ∈ "use " :: typeDeclarations, Diverge start front)
    (rest : String) : introducedName? (front ++ rest) = none := by
  obtain ⟨huse, hdeclarations⟩ := List.forall_mem_cons.mp h
  rw [introducedName?, if_neg (huse.not_prefix_append rest), List.findSome?_eq_none_iff]
  exact fun start hstart => nameBehind?_of_diverge (hdeclarations start hstart) rest

theorem introducedName?_import (path : String) :
    introducedName? ("use " ++ path) = some (importedName ("use " ++ path)) := by
  rw [introducedName?, if_pos]
  rw [String.toList_append]
  exact List.prefix_append _ _

/-- The name of a declared type ends at the blank behind it. -/
theorem introducedName?_declaration {behind : String} (hstart : start ∈ typeDeclarations)
    (h : ' ' ∉ name.toList) (hbehind : behind.toList.head? = some ' ') :
    introducedName? (start ++ (name ++ behind)) = some name := by
  have hdiverge : ∀ start ∈ typeDeclarations, ∀ other ∈ "use " :: typeDeclarations,
      other ≠ start → Diverge other start := by decide
  have huse := hdiverge start hstart "use " List.mem_cons_self
    (fun heq => absurd (heq ▸ hstart) (by decide))
  rw [introducedName?, if_neg (huse.not_prefix_append _), List.findSome?_eq_some_iff]
  obtain ⟨before, others, heq, hbefore⟩ := List.eq_append_cons_of_mem hstart
  refine ⟨before, start, others, heq, ?_, fun other hother => nameBehind?_of_diverge ?_ _⟩
  · obtain ⟨rest, hrest⟩ := List.head?_eq_some_iff.mp hbehind
    have hline : (start ++ (name ++ behind)).toList =
        start.toList ++ (name.toList ++ ' ' :: rest) := by
      rw [String.toList_append, String.toList_append, hrest]
    exact nameBehind?_of_toList_eq h hline
  · refine hdiverge start hstart other ?_ (fun hsame => hbefore (hsame ▸ hother))
    rw [heq]
    exact List.mem_cons_of_mem _ (List.mem_append_left _ hother)

/-- Documentation introduces no name. -/
theorem introducedNames_docs (h : ∀ start ∈ "use " :: typeDeclarations, Diverge start front)
    (docs : Bool) (rest : String) :
    introducedNames (if docs then [front ++ rest] else []) = [] := by
  rw [introducedNames_eq_nil_iff]
  intro line hline
  obtain ⟨-, hline⟩ := List.mem_ite_nil_right.mp hline
  rw [List.mem_singleton.mp hline]
  exact introducedName?_of_diverge h rest

namespace ClosedUnion

theorem introducedNames_enumeration (h : ' ' ∉ family.name.toList) :
    introducedNames (enumeration options family) = [family.name] := by
  have hdocs : introducedNames (if options.docs then
      ["/// `" ++ (family.name ++ "` syntax tree node.")] else []) = [] :=
    introducedNames_docs (by decide) _ _
  have hderive : introducedName? ("#[derive(" ++
      (String.intercalate ", " (derivedTraits options) ++ ")]")) = none :=
    introducedName?_of_diverge (by decide) _
  have hopening : introducedName? ("pub enum " ++ (family.name ++ " \x7b")) = some family.name :=
    introducedName?_declaration (by decide) h (by decide)
  have hcases : introducedNames (family.variants.map caseLine) = [] := by
    refine introducedNames_eq_nil_iff.mpr (List.forall_mem_map.mpr fun variant _ => ?_)
    simp only [caseLine, String.append_assoc]
    exact introducedName?_of_diverge (by decide) _
  have hclosing : introducedNames ["\x7d"] = [] := by decide
  simp only [enumeration, introducedNames_append, String.append_assoc]
  rw [hdocs, hcases, hclosing, introducedNames, List.filterMap_cons_none hderive,
    List.filterMap_cons_some hopening]
  rfl

variable (options : SourceOptions) (policy : Policy) (handle : SharedHandle)

theorem introducedNames_constructorLines (family : String) (variant : ResolvedVariant) :
    introducedNames (constructorLines options policy handle family variant) = [] := by
  have hdocs : introducedNames (if options.docs then
      ["    /// Builds a [`" ++ (family ++ ("::" ++ (variant.name ++ "`].")))] else []) = [] :=
    introducedNames_docs (by decide) _ _
  have hdeclared (rest : String) : introducedName? ("    pub fn " ++ rest) = none :=
    introducedName?_of_diverge (by decide) rest
  have hreturned (rest : String) : introducedName? ("        " ++ rest) = none :=
    introducedName?_of_diverge (by decide) rest
  simp only [constructorLines, introducedNames_append, String.append_assoc]
  rw [hdocs, introducedNames, List.filterMap_cons_none (hdeclared _),
    List.filterMap_cons_none (hreturned _)]
  decide

theorem introducedNames_constructorBlock (family : ResolvedFamily) :
    introducedNames (constructorBlock options policy handle family) = [] := by
  have hopening : introducedName? ("impl " ++ (family.name ++ " \x7b")) = none :=
    introducedName?_of_diverge (by decide) _
  have hempty : introducedName? "" = none := by decide
  have hclosing : introducedName? "\x7d" = none := by decide
  simp only [constructorBlock, String.append_assoc, introducedNames_eq_nil_iff,
    List.forall_mem_append, List.forall_mem_singleton]
  refine ⟨⟨hopening, fun line hline => ?_⟩, hclosing⟩
  rcases Text.mem_of_mem_intercalate hline with rfl | ⟨piece, hpiece, hmem⟩
  · exact hempty
  · obtain ⟨variant, -, rfl⟩ := List.mem_map.mp hpiece
    exact introducedNames_eq_nil_iff.mp
      (introducedNames_constructorLines options policy handle family.name variant) line hmem

theorem introducedNames_formatter (family : String) : introducedNames (formatter family) = [] := by
  have hopening : introducedName? ("impl fmt::Display for " ++ (family ++ " \x7b")) = none :=
    introducedName?_of_diverge (by decide) _
  simp only [formatter, String.append_assoc]
  rw [introducedNames, List.filterMap_cons_none hopening]
  decide

/-- The definitions declare the enumeration. -/
theorem introducedNames_definitions (h : ' ' ∉ family.name.toList) :
    introducedNames (definitions options policy handle family) = [family.name] := by
  have hempty : introducedNames [""] = [] := by decide
  simp only [definitions, introducedNames_append, introducedNames_enumeration h, hempty,
    introducedNames_constructorBlock, introducedNames_formatter, List.append_nil]

end ClosedUnion

namespace OpenPolymorphic

variable (options : SourceOptions)

theorem introducedNames_marker (h : ' ' ∉ name.toList) :
    introducedNames (marker options name) = [name] := by
  have hdocs : introducedNames (if options.docs then
      ["/// Marker implemented by every `" ++ (name ++ "` node.")] else []) = [] :=
    introducedNames_docs (by decide) _ _
  have htrait : introducedName? ("pub trait " ++ (name ++ (" " ++ emptyBraces))) = some name :=
    introducedName?_declaration (by decide) h (by decide)
  simp only [marker, introducedNames_append, String.append_assoc]
  rw [hdocs, introducedNames, List.filterMap_cons_some htrait]
  rfl

theorem introducedNames_structureLines (h : ' ' ∉ variant.name.toList) :
    introducedNames (structureLines variant) = [variant.name] := by
  have hclosed : introducedName? ("pub struct " ++ (variant.name ++ (" " ++ emptyBraces))) =
      some variant.name := introducedName?_declaration (by decide) h (by decide)
  have hopening : introducedName? ("pub struct " ++ (variant.name ++ " \x7b")) =
      some variant.name := introducedName?_declaration (by decide) h (by decide)
  have hfields : introducedNames (variant.fields.map fun field =>
      "    pub " ++ (typedField field ++ ",")) = [] :=
    introducedNames_eq_nil_iff.mpr (List.forall_mem_map.mpr fun field _ =>
      introducedName?_of_diverge (by decide) _)
  have hclosing : introducedNames ["\x7d"] = [] := by decide
  simp only [structureLines, String.append_assoc]
  split
  · rw [introducedNames, List.filterMap_cons_some hclosed]
    rfl
  · rw [introducedNames_append, introducedNames_append, hfields, hclosing, introducedNames,
      List.filterMap_cons_some hopening]
    rfl

theorem introducedNames_constructorLines (variant : ResolvedVariant) :
    introducedNames (constructorLines variant) = [] := by
  have hopening : introducedName? ("impl " ++ (variant.name ++ " \x7b")) = none :=
    introducedName?_of_diverge (by decide) _
  have hdeclared : introducedName? ("    pub fn new(" ++ (typedFields variant.fields ++
      ") -> Self \x7b")) = none := introducedName?_of_diverge (by decide) _
  have hreturned : introducedName? ("        Self " ++ literalBody variant.fields) = none :=
    introducedName?_of_diverge (by decide) _
  simp only [constructorLines, String.append_assoc]
  rw [introducedNames, List.filterMap_cons_none hopening, List.filterMap_cons_none hdeclared,
    List.filterMap_cons_none hreturned]
  decide

theorem introducedNames_variantLines (family : String) (h : ' ' ∉ variant.name.toList) :
    introducedNames (variantLines options family variant) = [variant.name] := by
  have hdocs : introducedNames (if options.docs then
      ["/// `" ++ (variant.name ++ ("` node of the `" ++ (family ++ "` family.")))] else []) = [] :=
    introducedNames_docs (by decide) _ _
  have hmarker : introducedNames ["impl " ++ (family ++ (" for " ++ (variant.name ++ (" " ++
      emptyBraces))))] = [] := introducedNames_eq_nil_iff.mpr
    (List.forall_mem_singleton.mpr (introducedName?_of_diverge (by decide) _))
  have hempty : introducedNames [""] = [] := by decide
  simp only [variantLines, introducedNames_append, String.append_assoc]
  rw [hdocs, hmarker, hempty, introducedNames_structureLines h, introducedNames_constructorLines]
  rfl

/-- The definitions declare the trait and a structure for each variant. -/
theorem introducedNames_definitions (hname : ' ' ∉ family.name.toList)
    (hvariants : ∀ variant ∈ family.variants, ' ' ∉ variant.name.toList) :
    introducedNames (definitions options family) =
      family.name :: family.variants.map (·.name) := by
  have hempty : introducedName? "" = none := by decide
  have hstructures : introducedNames (family.variants.flatMap fun variant =>
      "" :: variantLines options family.name variant) = family.variants.map (·.name) := by
    rw [introducedNames, List.filterMap_flatMap, List.map_eq_flatMap]
    refine List.flatMap_congr fun variant hvariant => ?_
    rw [List.filterMap_cons_none hempty]
    exact introducedNames_variantLines options family.name (hvariants variant hvariant)
  rw [definitions, introducedNames_append, introducedNames_marker options hname, hstructures]
  rfl

end OpenPolymorphic

theorem introducedName?_of_mem_requiredImports
    (h : line ∈ requiredImports strategy options resolver family) :
    introducedName? line = some (importedName line) := by
  rcases mem_requiredImports_iff.mp h with hfamily | hstandard
  · obtain ⟨modulePrefix, -, other, -, rfl⟩ := mem_familyImports_iff.mp hfamily
    simpa only [familyImport, String.append_assoc] using introducedName?_import _
  · have hall : ∀ line ∈ allStandardImports,
        introducedName? line = some (importedName line) := by decide +kernel
    exact hall line (standardImports_subset strategy resolver family hstandard)

theorem introducedNames_importBlock :
    introducedNames (importBlock (requiredImports strategy options resolver family) []) =
      (importBlock (requiredImports strategy options resolver family) []).map importedName := by
  rw [introducedNames, ← List.filterMap_eq_map]
  refine List.filterMap_congr fun line hline => ?_
  exact introducedName?_of_mem_requiredImports (mem_importBlock_iff.mp hline).1

theorem introducedNames_banner (name : String) (strategy : Strategy) (policy : Policy) :
    introducedNames (banner name strategy policy) = [] := by
  have hname : introducedName? ("// `" ++ (name ++ "` family")) = none :=
    introducedName?_of_diverge (by decide) _
  have horigin : introducedName? ("// auto-generated by astgen (" ++ (strategy.name ++ (", " ++
      (policy.name ++ " policy)")))) = none := introducedName?_of_diverge (by decide) _
  have hrule : introducedName? bannerRule = none := by decide
  simp only [banner, String.append_assoc]
  rw [introducedNames, List.filterMap_cons_none hrule, List.filterMap_cons_none hname,
    List.filterMap_cons_none horigin]
  decide

theorem introducedNames_preludeBlock :
    introducedNames (preludeBlock [] (requiredImports strategy options resolver family)) =
      (importBlock (requiredImports strategy options resolver family) []).map importedName := by
  have hempty : introducedNames [""] = [] := by decide
  rw [← introducedNames_importBlock]
  simp only [preludeBlock, List.map_nil, List.nil_append, introducedNames_append]
  split
  · exact List.append_nil _
  · rw [hempty, List.append_nil]

/-- The types that the definitions declare. -/
def declaredTypes (strategy : Strategy) (family : ResolvedFamily) : List String :=
  match strategy with
  | .closedUnion => [family.name]
  | .openPolymorphic => family.name :: family.variants.map (·.name)

/-- A file introduces the names that it imports and the types that it declares. -/
theorem introducedNames_layout (hname : ' ' ∉ family.name.toList)
    (hvariants : ∀ variant ∈ family.variants, ' ' ∉ variant.name.toList) :
    introducedNames (layout strategy options resolver [] family) =
      (importBlock (requiredImports strategy options resolver family) []).map importedName ++
        declaredTypes strategy family := by
  rw [layout, header, introducedNames_append, introducedNames_append, introducedNames_banner,
    introducedNames_preludeBlock, List.nil_append]
  congr 1
  cases strategy with
  | closedUnion => exact ClosedUnion.introducedNames_definitions _ _ _ hname
  | openPolymorphic => exact OpenPolymorphic.introducedNames_definitions _ hname hvariants

/-- What keeps the names of a file apart. -/
structure NamesApart (strategy : Strategy) (options : SourceOptions) (resolver : Resolver)
    (family : ResolvedFamily) : Prop where
  /-- No structure has the name of the trait. -/
  structures : strategy = .openPolymorphic → ∀ variant ∈ family.variants, variant.name ≠ family.name
  /-- No declared type has the name of a standard import. -/
  standard : ∀ name ∈ declaredTypes strategy family, name ∉ standardNames strategy resolver family
  /-- No declared type has the name under which a family is imported. -/
  imported : ∀ name ∈ declaredTypes strategy family,
    ∀ other ∈ importedFamilies options family, lastSegment other ≠ name
  /-- No two families are imported under one name. -/
  families : ((importedFamilies options family).map lastSegment).Nodup
  /-- No family is imported under the name of a standard import, unless the lines are the same. -/
  foreign : ∀ other ∈ importedFamilies options family,
    lastSegment other ∈ standardNames strategy resolver family →
      options.modulePrefix = some "std" ∧ other = "Rc"

theorem nodup_declaredTypes_iff (hnodup : (family.variants.map (·.name)).Nodup) :
    (declaredTypes strategy family).Nodup ↔
      (strategy = .openPolymorphic → ∀ variant ∈ family.variants, variant.name ≠ family.name) := by
  cases strategy with
  | closedUnion => simp [declaredTypes]
  | openPolymorphic =>
    rw [declaredTypes, List.nodup_cons]
    simp [hnodup]

theorem disjoint_importedNames_iff :
    ((importBlock (requiredImports strategy options resolver family) []).map importedName).Disjoint
        (declaredTypes strategy family) ↔
      (∀ name ∈ declaredTypes strategy family, name ∉ standardNames strategy resolver family) ∧
        ∀ name ∈ declaredTypes strategy family,
          ∀ other ∈ importedFamilies options family, lastSegment other ≠ name := by
  simp only [List.disjoint_right, mem_importedNames_iff, not_or, not_exists, not_and]
  exact ⟨fun h => ⟨fun name hname => (h hname).2, fun name hname => (h hname).1⟩,
    fun h name hname => ⟨h.2 name hname, h.1 name hname⟩⟩

/-- The names that a file introduces are different exactly if those keep apart that are not compared
when the family is read. -/
theorem introducedNames_nodup_iff {name : String} {entries : List String} {family : Family}
    {resolved : ResolvedFamily} (hparse : Family.parse name entries = .ok family)
    (hname : Identifier.Spells name.toList)
    (hresolved : resolver.resolveFamily family = .ok resolved) :
    (introducedNames (layout strategy options resolver [] resolved)).Nodup ↔
      NamesApart strategy options resolver resolved := by
  obtain ⟨rfl, hclash⟩ := Family.parse_eq_ok_iff.mp hparse
  have hfamily : resolved.name = family.name := (Resolver.resolveFamily_eq_ok_iff.mp hresolved).1
  have hvariants : ∀ variant ∈ resolved.variants, ' ' ∉ variant.name.toList := by
    intro variant hvariant
    exact (Family.resolved_names_spelled hclash hresolved variant hvariant).1.not_mem (by decide)
  have hnames : (resolved.variants.map (·.name)).Nodup :=
    Resolver.resolveFamily_names hresolved ▸ hclash.nodup_names
  have hdynamic : dynamicType ∉ resolved.dependencies := fun hmem =>
    (Resolver.of_mem_dependencies hresolved hmem).2.2 rfl
  rw [introducedNames_layout (hfamily ▸ hname.not_mem (by decide)) hvariants, List.nodup_append',
    nodup_importedNames_iff (Resolver.nodup_dependencies hresolved) hdynamic,
    nodup_declaredTypes_iff hnames, disjoint_importedNames_iff]
  constructor
  · rintro ⟨⟨hfamilies, hforeign⟩, hstructures, hstandard, himported⟩
    exact ⟨hstructures, hstandard, himported, hfamilies, hforeign⟩
  · rintro ⟨hstructures, hstandard, himported, hfamilies, hforeign⟩
    exact ⟨⟨hfamilies, hforeign⟩, hstructures, hstandard, himported⟩

/-- The resolver of two families that own their nodes. -/
def owning : Resolver where
  policy := .owned
  handle := .rc
  families := ["Stmt", "Expr"]

/-- A family with a reference to the other one and with an opaque payload. -/
def statements : Family :=
  ⟨"Stmt", [⟨"Print", [⟨"value", "Expr"⟩]⟩, ⟨"Host", [⟨"payload", "Any"⟩]⟩]⟩

/-- What the family is resolved to. -/
def resolvedStatements : ResolvedFamily :=
  ⟨"Stmt", [⟨"Print", [⟨"value", "Expr", "Box<dyn Expr>", .crossFamily "Expr"⟩]⟩,
    ⟨"Host", [⟨"payload", "Any", "Box<dyn Any>", .dynamic⟩]⟩], ["Expr"]⟩

theorem statements_introducedNames :
    Family.parse "Stmt" ["Print : Expr value", "Host : Any payload"] = .ok statements ∧
      Identifier.Spells "Stmt".toList ∧ owning.resolveFamily statements = .ok resolvedStatements ∧
      NamesApart .openPolymorphic fromRoot owning resolvedStatements ∧
      (introducedNames (layout .openPolymorphic fromRoot owning [] resolvedStatements)).Nodup := by
  have hparse : Family.parse "Stmt" ["Print : Expr value", "Host : Any payload"] =
      .ok statements := by decide +kernel
  have hname : Identifier.Spells "Stmt".toList := Identifier.isSpelled_iff.mp (by decide)
  have hresolved : owning.resolveFamily statements = .ok resolvedStatements := by decide +kernel
  have hapart : NamesApart .openPolymorphic fromRoot owning resolvedStatements := by
    constructor <;> decide +kernel
  exact ⟨hparse, hname, hresolved, hapart,
    (introducedNames_nodup_iff hparse hname hresolved).mpr hapart⟩

/-- A structure can have the name of the trait that it implements. -/
theorem not_nodup_introducedNames : ¬ ∀ (strategy : Strategy) (options : SourceOptions)
    (resolver : Resolver) (name : String) (entries : List String) (family : Family)
    (resolved : ResolvedFamily), strategy.supports resolver.policy = true →
    Family.parse name entries = .ok family → Identifier.Spells name.toList →
    resolver.resolveFamily family = .ok resolved →
    (introducedNames (layout strategy options resolver [] resolved)).Nodup := by
  intro h
  have hparse : Family.parse "Expr" ["Expr : i64 value"] =
      .ok ⟨"Expr", [⟨"Expr", [⟨"value", "i64"⟩]⟩]⟩ := by decide +kernel
  have hresolved : (Resolver.mk .owned .rc ["Expr"] []).resolveFamily
      ⟨"Expr", [⟨"Expr", [⟨"value", "i64"⟩]⟩]⟩ =
        .ok ⟨"Expr", [⟨"Expr", [⟨"value", "i64", "i64", .final⟩]⟩], []⟩ := by decide +kernel
  have hnodup := h .openPolymorphic {} _ "Expr" _ _ _ rfl hparse
    (Identifier.isSpelled_iff.mp (by decide)) hresolved
  rw [introducedNames_layout (by decide) (by decide)] at hnodup
  exact absurd (List.nodup_append'.mp hnodup).2.1 (by decide)

end TreeTypes.Source
