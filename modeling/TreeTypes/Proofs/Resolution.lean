import TreeTypes.Proofs.Grammar.InOrder
import TreeTypes.Resolution

/-!
# Resolved families

`Resolver.Maps` lists the four ways in which a declared type is mapped. A family is resolved field
by field, so that names and their order stay, and every dependency is a registered family that a
field names and that is neither the family itself nor the opaque payload.
-/

namespace TreeTypes

variable {name : String} {seen names : List String}

theorem mem_firstOccurrences : name ∈ firstOccurrences seen names ↔ name ∈ names ∧ name ∉ seen := by
  induction names generalizing seen with
  | nil => simp [firstOccurrences]
  | cons first rest ih =>
    by_cases hseen : first ∈ seen
    · have hskip : firstOccurrences seen (first :: rest) = firstOccurrences seen rest := by
        simp [firstOccurrences, hseen]
      rw [hskip, ih]
      grind
    · have hkeep : firstOccurrences seen (first :: rest) =
          first :: firstOccurrences (first :: seen) rest := by
        simp [firstOccurrences, hseen]
      rw [hkeep, List.mem_cons, ih]
      grind

theorem nodup_firstOccurrences (seen names : List String) :
    (firstOccurrences seen names).Nodup := by
  induction names generalizing seen with
  | nil => exact List.nodup_nil
  | cons first rest ih =>
    unfold firstOccurrences
    split
    · exact ih seen
    · refine List.nodup_cons.mpr ⟨?_, ih (first :: seen)⟩
      intro hfirst
      exact (mem_firstOccurrences.mp hfirst).2 List.mem_cons_self

theorem TypeKind.dependency?_eq_some_iff {kind : TypeKind} :
    kind.dependency? = some name ↔ kind = .crossFamily name := by
  cases kind <;> simp [dependency?]

namespace Resolver

/-- What a declared type becomes inside a family, and why. -/
inductive Maps (resolver : Resolver) (family : String) : (declared type : String) → TypeKind → Prop
  | dynamic : Maps resolver family dynamicType resolver.dynamicHandle .dynamic
  | selfReference : family ≠ dynamicType →
      Maps resolver family family (resolver.familyHandle family) .selfReference
  | crossFamily {other : String} : other ≠ dynamicType → other ≠ family →
      other ∈ resolver.families →
      Maps resolver family other (resolver.familyHandle other) (.crossFamily other)
  | final {declared : String} : declared ≠ dynamicType → declared ≠ family →
      declared ∉ resolver.families → resolver.isFinal declared = true →
      Maps resolver family declared declared .final

variable {resolver : Resolver} {declared type : String} {kind : TypeKind}

theorem resolve_eq_some_iff {family : String} :
    resolver.resolve family declared = some (type, kind) ↔
      Maps resolver family declared type kind := by
  constructor
  · intro hresolved
    simp only [resolve] at hresolved
    split at hresolved
    case isTrue hdynamic =>
      obtain ⟨rfl, rfl⟩ := Prod.mk.inj (Option.some.inj hresolved)
      exact hdynamic ▸ .dynamic
    case isFalse hdynamic =>
      split at hresolved
      case isTrue hself =>
        obtain ⟨rfl, rfl⟩ := Prod.mk.inj (Option.some.inj hresolved)
        exact hself ▸ .selfReference (hself ▸ hdynamic)
      case isFalse hself =>
        split at hresolved
        case isTrue hcross =>
          obtain ⟨rfl, rfl⟩ := Prod.mk.inj (Option.some.inj hresolved)
          exact .crossFamily hdynamic hself (List.contains_iff_mem.mp hcross)
        case isFalse hcross =>
          split at hresolved
          case isTrue hfinal =>
            obtain ⟨rfl, rfl⟩ := Prod.mk.inj (Option.some.inj hresolved)
            exact .final hdynamic hself (mt List.contains_iff_mem.mpr hcross) hfinal
          case isFalse => cases hresolved
  · rintro (_ | hdynamic | ⟨hdynamic, hself, hcross⟩ | ⟨hdynamic, hself, hcross, hfinal⟩)
    · simp [resolve]
    · simp [resolve, hdynamic]
    · simp [resolve, hdynamic, hself, hcross]
    · simp [resolve, hdynamic, hself, hcross, hfinal]

theorem Maps.registered {family : String}
    (h : Maps resolver family declared type (.crossFamily name)) :
    name ∈ resolver.families ∧ name ≠ family ∧ name ≠ dynamicType := by
  cases h with
  | crossFamily hdynamic hself hregistered => exact ⟨hregistered, hself, hdynamic⟩

theorem resolveField_eq_ok_iff {family variant : String} {field : Field}
    {resolved : ResolvedField} :
    resolver.resolveField family variant field = .ok resolved ↔
      resolved.name = field.name ∧ resolved.declaredType = field.type ∧
        Maps resolver family field.type resolved.type resolved.kind := by
  obtain ⟨name, declared, type, kind⟩ := resolved
  rw [← resolve_eq_some_iff, resolveField]
  split
  case h_1 mapped mappedKind hmapped =>
    simp only [hmapped, Except.ok.injEq, ResolvedField.mk.injEq, Option.some.injEq, Prod.mk.injEq]
    grind
  case h_2 hnone => simp [hnone]

theorem resolveVariant_eq_ok_iff {family : String} {variant : Variant}
    {resolved : ResolvedVariant} :
    resolver.resolveVariant family variant = .ok resolved ↔ resolved.name = variant.name ∧
      List.Forall₂
        (fun field result => resolver.resolveField family variant.name field = .ok result)
        variant.fields resolved.fields := by
  obtain ⟨name, fields⟩ := resolved
  rw [← mapM_eq_ok_iff, resolveVariant]
  cases variant.fields.mapM (resolver.resolveField family variant.name) with
  | error failure => simp [bind, Except.bind]
  | ok found => simp [bind, Except.bind, pure, Except.pure, eq_comm]

theorem resolveFamily_eq_ok_iff {family : Family} {resolved : ResolvedFamily} :
    resolver.resolveFamily family = .ok resolved ↔ resolved.name = family.name ∧
      List.Forall₂ (fun variant result => resolver.resolveVariant family.name variant = .ok result)
        family.variants resolved.variants ∧
      resolved.dependencies =
        firstOccurrences [] (resolved.fields.filterMap (·.kind.dependency?)) := by
  obtain ⟨name, variants, dependencies⟩ := resolved
  have hkinds : (ResolvedFamily.mk name variants dependencies).fields.filterMap
      (·.kind.dependency?) = (variants.flatMap fun variant =>
        variant.fields.map (·.kind)).filterMap (·.dependency?) := by
    simp [ResolvedFamily.fields, List.filterMap_flatMap, List.filterMap_map]
  rw [hkinds, ← mapM_eq_ok_iff, resolveFamily]
  cases family.variants.mapM (resolver.resolveVariant family.name) with
  | error failure => simp [bind, Except.bind]
  | ok found =>
    simp only [bind, Except.bind, pure, Except.pure, Except.ok.injEq, ResolvedFamily.mk.injEq]
    constructor
    · rintro ⟨rfl, rfl, rfl⟩
      exact ⟨rfl, rfl, rfl⟩
    · rintro ⟨rfl, rfl, rfl⟩
      exact ⟨rfl, rfl, rfl⟩

/-- The fields of a family are resolved one by one. -/
theorem forall₂_fields {family : Family} {resolved : ResolvedFamily}
    (h : resolver.resolveFamily family = .ok resolved) :
    List.Forall₂ (fun (field : Field) (result : ResolvedField) =>
        result.name = field.name ∧ result.declaredType = field.type ∧
          Maps resolver family.name field.type result.type result.kind)
      (family.variants.flatMap (·.fields)) resolved.fields := by
  obtain ⟨-, hvariants, -⟩ := resolveFamily_eq_ok_iff.mp h
  refine List.rel_flatMap hvariants fun variant result hvariant => ?_
  exact (resolveVariant_eq_ok_iff.mp hvariant).2.imp fun _ _ => resolveField_eq_ok_iff.mp

theorem resolveVariant_fieldNames {family : String} {variant : Variant} {resolved : ResolvedVariant}
    (h : resolver.resolveVariant family variant = .ok resolved) :
    resolved.fields.map (·.name) = variant.fieldNames :=
  (map_eq_map_of_forall₂ ((resolveVariant_eq_ok_iff.mp h).2.imp fun _ _ hfield =>
    (resolveField_eq_ok_iff.mp hfield).1.symm)).symm

theorem resolveFamily_names {family : Family} {resolved : ResolvedFamily}
    (h : resolver.resolveFamily family = .ok resolved) :
    resolved.variants.map (·.name) = family.variants.map (·.name) :=
  (map_eq_map_of_forall₂ ((resolveFamily_eq_ok_iff.mp h).2.1.imp fun _ _ hvariant =>
    (resolveVariant_eq_ok_iff.mp hvariant).1.symm)).symm

/-- A resolved family depends on the families that its fields refer to. -/
theorem mem_dependencies_iff {family : Family} {resolved : ResolvedFamily}
    (h : resolver.resolveFamily family = .ok resolved) :
    name ∈ resolved.dependencies ↔ ∃ field ∈ resolved.fields, field.kind = .crossFamily name := by
  rw [(resolveFamily_eq_ok_iff.mp h).2.2, mem_firstOccurrences, List.mem_filterMap]
  simp only [TypeKind.dependency?_eq_some_iff, List.not_mem_nil, not_false_eq_true, and_true]

/-- A family depends on registered families other than itself. -/
theorem of_mem_dependencies {family : Family} {resolved : ResolvedFamily}
    (h : resolver.resolveFamily family = .ok resolved) (hname : name ∈ resolved.dependencies) :
    name ∈ resolver.families ∧ name ≠ family.name ∧ name ≠ dynamicType := by
  obtain ⟨field, hfield, hkind⟩ := (mem_dependencies_iff h).mp hname
  obtain ⟨source, -, -, hmaps⟩ := exists_of_forall₂_of_mem (forall₂_fields h).flip hfield
  rw [hkind] at hmaps
  exact hmaps.registered

theorem nodup_dependencies {family : Family} {resolved : ResolvedFamily}
    (h : resolver.resolveFamily family = .ok resolved) : resolved.dependencies.Nodup := by
  rw [(resolveFamily_eq_ok_iff.mp h).2.2]
  exact nodup_firstOccurrences [] _

end Resolver

end TreeTypes
