import TreeTypes.Proofs.Source.Handles
import TreeTypes.Proofs.Source.ImportBlock

/-!
# The import of the handle

A closed layout imports the handle that its definitions show. Under the shared policy it imports the
handle also for a family without variants, where nothing is built with it.
-/

namespace TreeTypes.Source

variable {strategy : Strategy} {options : SourceOptions} {resolver : Resolver} {source : Family}
variable {family : ResolvedFamily} {preludeLines : List String}

theorem isImport_importLine (handle : SharedHandle) : IsImport handle.importLine := by
  cases handle <;> decide

theorem refers_or_holds_payload_iff :
    family.hasFamilyReferences = true ∨ family.hasDynamicFields = true ↔
      ∃ field ∈ family.fields, field.kind ≠ .final := by
  have hkind (kind : TypeKind) : kind ≠ .final ↔ kind.isReference = true ∨ kind = .dynamic := by
    cases kind <;> simp [TypeKind.isReference]
  simp only [ResolvedFamily.hasFamilyReferences, ResolvedFamily.hasDynamicFields,
    List.any_eq_true, beq_iff_eq, hkind, and_or_left, exists_or]

/-- Without imports of families, a handle is required by a closed layout only, and only the one that
types and values are built with. -/
theorem importLine_mem_requiredImports_iff (hroot : options.modulePrefix = none)
    (handle : SharedHandle) :
    handle.importLine ∈ requiredImports strategy options resolver family ↔
      handle = resolver.handle ∧ strategy = .closedUnion ∧
        (family.BuildsHandle resolver.policy ∨
          resolver.policy = .shared ∧ family.variants = []) := by
  have hnone : familyImports options family = [] := by rw [familyImports, hroot]
  have hother : handle.importLine ≠ formatterImport ∧ handle.importLine ≠ dynamicImport := by
    cases handle <;> decide
  have hhandle : handle.importLine = resolver.handle.importLine ↔ handle = resolver.handle := by
    cases handle <;> cases resolver.handle <;> decide
  rw [mem_requiredImports_iff, hnone, mem_standardImports_iff, refers_or_holds_payload_iff,
    hhandle, ResolvedFamily.BuildsHandle]
  simp only [← kind_ne_final_iff, List.not_mem_nil, false_or, hother, and_false, or_false]
  grind

/-- The import of a handle stands in a closed layout exactly if a type or a value is built with this
handle, or a family without variants is shared. The definitions show the handle in the first case
only. -/
theorem handleImport_iff (hpolicy : strategy.supports resolver.policy = true)
    (hresolved : resolver.resolveFamily source = .ok family) (hroot : options.modulePrefix = none)
    {handle : SharedHandle} (hfree : ¬ Holds preludeLines handle.importLine) :
    ((Generator.mk strategy options).generate resolver preludeLines source).result =
      .ok (textOfLines (layout strategy options resolver preludeLines family)) ∧
    (handle.importLine ∈ layout strategy options resolver preludeLines family ↔
      handle = resolver.handle ∧ strategy = .closedUnion ∧
        (family.BuildsHandle resolver.policy ∨
          resolver.policy = .shared ∧ family.variants = [])) ∧
    (ShowsHandle strategy options resolver source ↔
      strategy = .closedUnion ∧ family.BuildsHandle resolver.policy) := by
  refine ⟨Generator.generate_eq_ok_iff.mpr ⟨hpolicy, family, hresolved, rfl⟩, ?_, ?_⟩
  · rw [mem_layout_iff (isImport_importLine handle) hfree]
    exact importLine_mem_requiredImports_iff hroot handle
  · exact showsHandle_iff_buildsHandle hpolicy hresolved

/-- A family whose only handle is one that a declared type spells. -/
def listing : Family := ⟨"Expr", [⟨"List", [⟨"items", "Vec<Rc<i64>>"⟩]⟩, ⟨"Empty", []⟩]⟩

/-- What the family is resolved to, under any policy. -/
def resolvedListing : ResolvedFamily :=
  ⟨"Expr", [⟨"List", [⟨"items", "Vec<Rc<i64>>", "Vec<Rc<i64>>", .final⟩]⟩, ⟨"Empty", []⟩], []⟩

/-- A resolver that knows no names. -/
def nameless (policy : Policy) (handle : SharedHandle) : Resolver := ⟨policy, handle, [], []⟩

/-- The handle is imported for what the constructors return, and not for a type that is spelled
alike. -/
theorem listing_handleImport :
    "use std::rc::Rc;" ∉ layout .closedUnion {} (nameless .value .rc) ["use std::rc::Weak;"]
      resolvedListing ∧
    ¬ ShowsHandle .closedUnion {} (nameless .value .rc) listing ∧
    "use std::sync::Arc;" ∈ layout .closedUnion {} (nameless .shared .arc) ["use std::rc::Weak;"]
      resolvedListing ∧
    ShowsHandle .closedUnion {} (nameless .shared .arc) listing := by
  have hvalue : (nameless .value .rc).resolveFamily listing = .ok resolvedListing := by
    decide +kernel
  have hshared : (nameless .shared .arc).resolveFamily listing = .ok resolvedListing := by
    decide +kernel
  have hsupports : Strategy.closedUnion.supports (nameless .value .rc).policy = true ∧
      Strategy.closedUnion.supports (nameless .shared .arc).policy = true := ⟨rfl, rfl⟩
  have hroot : ({} : SourceOptions).modulePrefix = none := rfl
  have hfree (handle : SharedHandle) : ¬ Holds ["use std::rc::Weak;"] handle.importLine := by
    cases handle <;> decide +kernel
  have hbuilds : ¬ resolvedListing.BuildsHandle .value := by
    simp [ResolvedFamily.BuildsHandle, resolvedListing, ResolvedFamily.fields]
  have hreturns : resolvedListing.BuildsHandle .shared := .inr ⟨rfl, by decide⟩
  obtain ⟨-, hrc, hnone⟩ := handleImport_iff hsupports.1 hvalue hroot (hfree .rc)
  obtain ⟨-, harc, hshown⟩ := handleImport_iff hsupports.2 hshared hroot (hfree .arc)
  refine ⟨fun hline => ?_, fun hshows => hbuilds (hnone.mp hshows).2,
    harc.mpr ⟨rfl, rfl, .inl hreturns⟩, hshown.mpr ⟨rfl, hreturns⟩⟩
  obtain ⟨-, -, himported | ⟨hpolicy, -⟩⟩ := hrc.mp hline
  · exact hbuilds himported
  · cases hpolicy

/-- Under the shared policy the handle is imported also where nothing is built with it. -/
theorem not_handleImport_iff : ¬ ∀ (options : SourceOptions) (resolver : Resolver) (source : Family)
    (family : ResolvedFamily) (preludeLines : List String),
    Strategy.closedUnion.supports resolver.policy = true →
    resolver.resolveFamily source = .ok family → options.modulePrefix = none →
    ¬ Holds preludeLines resolver.handle.importLine →
    (resolver.handle.importLine ∈ layout .closedUnion options resolver preludeLines family ↔
      family.BuildsHandle resolver.policy) := by
  intro h
  have hresolved : (nameless .shared .rc).resolveFamily ⟨"Expr", []⟩ = .ok ⟨"Expr", [], []⟩ := rfl
  have hiff := h {} (nameless .shared .rc) ⟨"Expr", []⟩ ⟨"Expr", [], []⟩ [] rfl hresolved rfl
    (by decide)
  have himported := hiff.mp (by decide +kernel)
  simp [ResolvedFamily.BuildsHandle, ResolvedFamily.fields] at himported

end TreeTypes.Source
