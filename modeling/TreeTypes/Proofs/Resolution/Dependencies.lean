import Mathlib.Data.List.Forall2
import TreeTypes.Proofs.Resolution

/-!
# Dependencies of a family

The families that a family depends on are found in two ways: from the types that its fields
declare, and from the kinds that the fields get when they are resolved. Either way lists registered
families other than the family itself, each once and by its first reference. They differ on the
opaque payload, which is no reference to a family even where one of its name is registered: the
declared types alone do not tell it apart.
-/

namespace TreeTypes

/-- The types that the fields of a family declare, in order. -/
def Family.declaredTypes (family : Family) : List String :=
  family.variants.flatMap fun variant => variant.fields.map (·.type)

/-- The names are the members of `types` that satisfy `p`, each once and by its first occurrence. -/
structure ListsFirst (p : String → Prop) (types names : List String) : Prop where
  mem_iff : ∀ name, name ∈ names ↔ name ∈ types ∧ p name
  nodup : names.Nodup
  ordered : names.Pairwise fun first later => types.idxOf first < types.idxOf later

theorem ordered_firstOccurrences (p : String → Bool) (seen types : List String) :
    (firstOccurrences seen (types.filter p)).Pairwise fun first later =>
      types.idxOf first < types.idxOf later := by
  induction types generalizing seen with
  | nil => exact .nil
  | cons type rest ih =>
    -- A name that is not the first type lies one place further behind it.
    have hbehind : ∀ name, type ≠ name → (type :: rest).idxOf name = rest.idxOf name + 1 :=
      fun name hne => List.idxOf_cons_ne rest hne
    have hskip : ∀ seen, type ∈ seen ∨ p type = false →
        (firstOccurrences seen (rest.filter p)).Pairwise fun first later =>
          (type :: rest).idxOf first < (type :: rest).idxOf later := by
      intro seen hskipped
      have hne : ∀ name ∈ firstOccurrences seen (rest.filter p), type ≠ name := by
        rintro name hname rfl
        obtain ⟨hmem, hseen⟩ := mem_firstOccurrences.mp hname
        exact hskipped.elim hseen (by simp [(List.mem_filter.mp hmem).2])
      refine (ih seen).imp_of_mem fun hfirst hlater hlt => ?_
      rw [hbehind _ (hne _ hfirst), hbehind _ (hne _ hlater)]
      omega
    by_cases hp : p type = true
    · rw [List.filter_cons_of_pos hp, firstOccurrences]
      split
      case isTrue hseen => exact hskip seen (.inl (List.contains_iff_mem.mp hseen))
      case isFalse =>
        refine List.pairwise_cons.mpr ⟨fun name hname => ?_, hskip _ (.inl List.mem_cons_self)⟩
        have hne : type ≠ name := by
          rintro rfl
          exact (mem_firstOccurrences.mp hname).2 List.mem_cons_self
        rw [List.idxOf_cons_self, hbehind name hne]
        omega
    · rw [List.filter_cons_of_neg hp]
      exact hskip seen (.inr (Bool.eq_false_iff.mpr hp))

theorem listsFirst_firstOccurrences {p : String → Prop} {holds : String → Bool}
    (h : ∀ name, holds name = true ↔ p name) (types : List String) :
    ListsFirst p types (firstOccurrences [] (types.filter holds)) where
  mem_iff name := by simp [mem_firstOccurrences, h]
  nodup := nodup_firstOccurrences [] _
  ordered := ordered_firstOccurrences holds [] types

theorem filterMap_eq_filter_of_forall₂ {α : Type} {p : String → Bool} {f : α → Option String}
    {types : List String} {items : List α}
    (h : List.Forall₂ (fun type item => f item = if p type then some type else none) types items) :
    items.filterMap f = types.filter p := by
  induction h with
  | nil => rfl
  | @cons type item types items hitem _ ih =>
    rw [List.filter_cons]
    split at hitem
    case isTrue hp => rw [List.filterMap_cons_some hitem, if_pos hp, ih]
    case isFalse hp => rw [List.filterMap_cons_none hitem, if_neg hp, ih]

namespace Resolver

variable {resolver : Resolver} {family : Family} {resolved : ResolvedFamily}
variable {declared type : String} {kind : TypeKind}

/-- Whether a declared type refers to another registered family. -/
def refers (resolver : Resolver) (family declared : String) : Bool :=
  declared != dynamicType && (declared != family && resolver.families.contains declared)

theorem refers_iff {family : String} : resolver.refers family declared = true ↔
    declared ∈ resolver.families ∧ declared ≠ family ∧ declared ≠ dynamicType := by
  simp only [refers, Bool.and_eq_true, bne_iff_ne, List.contains_iff_mem]
  tauto

theorem Maps.dependency?_eq {family : String} (h : Maps resolver family declared type kind) :
    kind.dependency? = if resolver.refers family declared then some declared else none := by
  cases h with
  | dynamic => simp [refers, TypeKind.dependency?]
  | selfReference => simp [refers, TypeKind.dependency?]
  | crossFamily hdynamic hself hregistered =>
    rw [if_pos (refers_iff.mpr ⟨hregistered, hself, hdynamic⟩), TypeKind.dependency?]
  | final hdynamic hself hunregistered => simp [refers, TypeKind.dependency?, hunregistered]

/-- The dependencies of a resolved family, from the declared types. -/
theorem resolveFamily_dependencies (h : resolver.resolveFamily family = .ok resolved) :
    resolved.dependencies =
      firstOccurrences [] (family.declaredTypes.filter (resolver.refers family.name)) := by
  have htypes : family.declaredTypes = (family.variants.flatMap (·.fields)).map (·.type) := by
    rw [Family.declaredTypes, List.map_flatMap]
  rw [(resolveFamily_eq_ok_iff.mp h).2.2, filterMap_eq_filter_of_forall₂]
  rw [htypes, List.forall₂_map_left_iff]
  exact (forall₂_fields h).imp fun field result hresult => hresult.2.2.dependency?_eq

/-- Both ways to find the dependencies list references to registered families in the order of the
fields. They agree unless a field declares the opaque payload while another family is registered
under its name. -/
theorem dependencies_eq_iff (h : resolver.resolveFamily family = .ok resolved) :
    (resolved.dependencies = resolver.dependencies family ↔
      ¬ (dynamicType ∈ resolver.families ∧ dynamicType ≠ family.name ∧
        dynamicType ∈ family.declaredTypes)) ∧
    ListsFirst (fun name => name ∈ resolver.families ∧ name ≠ family.name ∧ name ≠ dynamicType)
      family.declaredTypes resolved.dependencies ∧
    ListsFirst (fun name => name ∈ resolver.families ∧ name ≠ family.name)
      family.declaredTypes (resolver.dependencies family) := by
  have hresolved : ListsFirst
      (fun name => name ∈ resolver.families ∧ name ≠ family.name ∧ name ≠ dynamicType)
      family.declaredTypes resolved.dependencies := by
    rw [resolveFamily_dependencies h]
    exact listsFirst_firstOccurrences (fun _ => refers_iff) family.declaredTypes
  have hdeclared : ListsFirst (fun name => name ∈ resolver.families ∧ name ≠ family.name)
      family.declaredTypes (resolver.dependencies family) := by
    refine listsFirst_firstOccurrences (fun name => ?_) family.declaredTypes
    simp [and_comm]
  refine ⟨⟨?_, ?_⟩, hresolved, hdeclared⟩
  · rintro heq ⟨hregistered, hother, hfield⟩
    have hlisted := (hdeclared.mem_iff dynamicType).mpr ⟨hfield, hregistered, hother⟩
    rw [← heq] at hlisted
    exact ((hresolved.mem_iff dynamicType).mp hlisted).2.2.2 rfl
  · intro hapart
    rw [resolveFamily_dependencies h, dependencies]
    congr 1
    refine List.filter_congr fun declared hfield => ?_
    -- The two tests are the same but for the opaque payload.
    by_cases hdynamic : declared = dynamicType
    · subst hdynamic
      by_cases hother : dynamicType = family.name
      · simp [refers, hother]
      · have hunregistered : dynamicType ∉ resolver.families :=
          fun hregistered => hapart ⟨hregistered, hother, hfield⟩
        simp [refers, hunregistered]
    · simp [refers, hdynamic]

/-- Three registered families, and one under the name of the opaque payload. -/
def withPayloadFamily : Resolver where
  policy := .shared
  handle := .rc
  families := ["Any", "Expr", "Pattern", "Stmt"]

/-- A family that refers to two others, to one of them twice, and to itself. -/
def matching : Family := ⟨"Stmt", [
  ⟨"Match", [⟨"pattern", "Pattern"⟩, ⟨"subject", "Expr"⟩, ⟨"otherwise", "Pattern"⟩]⟩,
  ⟨"Block", [⟨"inner", "Stmt"⟩, ⟨"last", "Expr"⟩]⟩]⟩

theorem matching_dependencies : ∃ resolved,
    withPayloadFamily.resolveFamily matching = .ok resolved ∧
      resolved.dependencies = ["Pattern", "Expr"] ∧
      withPayloadFamily.dependencies matching = ["Pattern", "Expr"] := by
  obtain ⟨resolved, hresolved⟩ :
      ∃ resolved, withPayloadFamily.resolveFamily matching = .ok resolved := ⟨_, rfl⟩
  have hagree := (dependencies_eq_iff hresolved).1.mpr (by decide)
  have hlisted : withPayloadFamily.dependencies matching = ["Pattern", "Expr"] := by decide
  exact ⟨resolved, hresolved, hagree.trans hlisted, hlisted⟩

/-- A field with the opaque payload counts as a reference to a family that is called like it. -/
theorem not_dependencies_eq : ¬ ∀ (resolver : Resolver) (family : Family)
    (resolved : ResolvedFamily), resolver.resolveFamily family = .ok resolved →
    resolved.dependencies = resolver.dependencies family := by
  intro h
  have hresolved : withPayloadFamily.resolveFamily ⟨"Expr", [⟨"Literal", [⟨"value", "Any"⟩]⟩]⟩ =
      .ok ⟨"Expr", [⟨"Literal", [⟨"value", "Any", "Rc<dyn Any>", .dynamic⟩]⟩], []⟩ := by decide
  exact absurd (h _ _ _ hresolved) (by decide)

end Resolver

end TreeTypes
