import Mathlib.Algebra.BigOperators.Group.List.Basic
import Mathlib.Algebra.GroupWithZero.Nat
import TreeTypes.Proofs.Resolution.Respelling
import TreeTypes.Proofs.Source.Decoding

/-!
# Handles in the definitions

Fields that hold other nodes are spelled with the handle, and under the shared policy constructors
return it. The definitions of a closed layout read otherwise under another handle exactly if there
is such a field or such a constructor: the handle that counts across threads has the longer name,
and the text grows by one character wherever the handle stands.
-/

namespace TreeTypes

/-- A type or a value in the definitions of a family is built with the handle: a field holds another
node or the opaque payload, or a constructor returns a handle. -/
def ResolvedFamily.BuildsHandle (policy : Policy) (family : ResolvedFamily) : Prop :=
  (∃ field ∈ family.fields, field.kind = .dynamic ∨ field.kind = .selfReference ∨
    ∃ name, field.kind = .crossFamily name) ∨
  policy = .shared ∧ family.variants ≠ []

namespace Source

/-- The definitions of a family read otherwise under another handle. -/
def ShowsHandle (strategy : Strategy) (options : SourceOptions) (resolver : Resolver)
    (source : Family) : Prop :=
  ∃ handle first second, resolver.resolveFamily source = .ok first ∧
    { resolver with handle }.resolveFamily source = .ok second ∧
    textOfLines (definitions strategy options resolver first) ≠
      textOfLines (definitions strategy options { resolver with handle } second)

/-- How often the handle stands in a list of fields. -/
def fieldHandles (fields : List ResolvedField) : Nat :=
  fields.countP (·.kind != .final)

/-- How often the handle stands in what a constructor returns. -/
def returnHandles (policy : Policy) : Nat :=
  if policy = .shared then 1 else 0

/-- How often the handle stands in the definitions of a variant: in the fields of its case and of
its constructor, and in the type and the value that the constructor returns. -/
def variantHandles (policy : Policy) (variant : ResolvedVariant) : Nat :=
  2 * fieldHandles variant.fields + 2 * returnHandles policy

variable {policy : Policy} {options : SourceOptions} {family : ResolvedFamily}
variable {fields : List ResolvedField}

theorem kind_ne_final_iff {kind : TypeKind} : kind ≠ .final ↔
    kind = .dynamic ∨ kind = .selfReference ∨ ∃ name, kind = .crossFamily name := by
  cases kind <;> simp

theorem fieldHandles_pos_iff :
    0 < fieldHandles fields ↔ ∃ field ∈ fields, field.kind ≠ .final := by
  simp [fieldHandles, List.countP_pos_iff]

/-- Where types or values are built with the handle, it stands in the definitions. -/
theorem variantHandles_pos (h : family.BuildsHandle policy) :
    0 < (family.variants.map (variantHandles policy)).sum := by
  rw [List.sum_pos_iff_exists_pos_nat]
  simp only [List.mem_map, exists_exists_and_eq_and]
  simp only [ResolvedFamily.BuildsHandle, ← kind_ne_final_iff] at h
  rcases h with ⟨field, hfield, hkind⟩ | ⟨rfl, hvariants⟩
  · obtain ⟨variant, hvariant, hmem⟩ := List.mem_flatMap.mp hfield
    have hpos := fieldHandles_pos_iff.mpr ⟨field, hmem, hkind⟩
    exact ⟨variant, hvariant, by rw [variantHandles]; omega⟩
  · obtain ⟨variant, hvariant⟩ := List.exists_mem_of_ne_nil _ hvariants
    exact ⟨variant, hvariant, by simp [variantHandles, returnHandles]⟩

theorem length_textOfLines_cons (line : String) (rest : List String) :
    (textOfLines (line :: rest)).length = line.length + 1 + (textOfLines rest).length := by
  have hbreak : ("\n" : String).length = 1 := rfl
  rw [textOfLines_cons, String.length_append, String.length_append, hbreak]

theorem length_textOfLines_append (lines rest : List String) :
    (textOfLines (lines ++ rest)).length =
      (textOfLines lines).length + (textOfLines rest).length := by
  rw [textOfLines_append, String.length_append]

theorem length_textOfLines_map {α : Type} {f g : α → String} {count : α → Nat}
    (h : ∀ x, (f x).length = (g x).length + count x) (xs : List α) :
    (textOfLines (xs.map f)).length = (textOfLines (xs.map g)).length + (xs.map count).sum := by
  induction xs with
  | nil => rfl
  | cons x xs ih =>
    simp only [List.map_cons, length_textOfLines_cons, List.sum_cons, h x, ih]
    omega

theorem length_textOfLines_intercalate {α : Type} {f g : α → List String} {count : α → Nat}
    (h : ∀ x, (textOfLines (f x)).length = (textOfLines (g x)).length + count x) (xs : List α) :
    (textOfLines ([""].intercalate (xs.map f))).length =
      (textOfLines ([""].intercalate (xs.map g))).length + (xs.map count).sum := by
  induction xs with
  | nil => rfl
  | cons x xs ih =>
    cases xs with
    | nil => simp [h x]
    | cons y ys =>
      simp only [List.map_cons, List.intercalate_cons_cons, length_textOfLines_append,
        List.sum_cons, h x] at ih ⊢
      omega

/-- The handle that counts across threads has the longer name. -/
theorem length_spelling_arc (h : policy.usesSharedHandle = true) (declared : String)
    (kind : TypeKind) : (spelling policy .arc declared kind).length =
      (spelling policy .rc declared kind).length + if kind = .final then 0 else 1 := by
  have hdynamic : "Arc<dyn Any>".length = "Rc<dyn Any>".length + 1 := rfl
  have hopening : "Arc<".length = "Rc<".length + 1 := rfl
  cases policy with
  | owned => cases h
  | shared | value =>
    cases kind <;>
      simp [spelling, SharedHandle.typeName, String.length_append, hdynamic, hopening]
    all_goals omega

theorem length_typedFields_cons (field : ResolvedField) (rest : List ResolvedField) :
    (typedFields (field :: rest)).length = (Identifier.escape field.name).length + 2 +
      field.type.length + (behindField rest).length := by
  rw [← String.length_toList, toList_typedFields_cons]
  simp only [List.length_append, List.length_cons, String.length_toList]
  omega

theorem length_typedFields_arc (h : policy.usesSharedHandle = true)
    (fields : List ResolvedField) :
    (typedFields (fields.map (·.respell policy .arc))).length =
      (typedFields (fields.map (·.respell policy .rc))).length + fieldHandles fields := by
  induction fields with
  | nil => rfl
  | cons field fields ih =>
    have htype := length_spelling_arc h field.declaredType field.kind
    -- What separates two fields does not depend on the handle.
    have hbehind : (behindField (fields.map (·.respell policy .arc))).length =
        (behindField (fields.map (·.respell policy .rc))).length + fieldHandles fields := by
      cases fields with
      | nil => rfl
      | cons next rest =>
        simp only [behindField, List.map_cons, List.isEmpty_cons, Bool.false_eq_true, if_false,
          List.length_cons, String.length_toList] at ih ⊢
        omega
    have hcount : fieldHandles (field :: fields) =
        fieldHandles fields + if field.kind = .final then 0 else 1 := by
      simp [fieldHandles, List.countP_cons]
    rw [List.map_cons, List.map_cons, length_typedFields_cons, length_typedFields_cons, hcount]
    simp only [ResolvedField.respell] at hbehind htype ⊢
    omega

namespace ClosedUnion

theorem length_caseLine_arc (h : policy.usesSharedHandle = true) (variant : ResolvedVariant) :
    (caseLine (variant.respell policy .arc)).length =
      (caseLine (variant.respell policy .rc)).length + fieldHandles variant.fields := by
  have hfields := length_typedFields_arc h variant.fields
  simp only [caseLine, ResolvedVariant.respell, List.isEmpty_map]
  split
  case isTrue hempty =>
    rw [List.isEmpty_iff.mp hempty]
    rfl
  case isFalse =>
    simp only [braced, String.length_append]
    omega

theorem length_returnType_arc (policy : Policy) (name : String) :
    (returnType policy .arc name).length =
      (returnType policy .rc name).length + returnHandles policy := by
  have hopening : SharedHandle.arc.typeName.length = SharedHandle.rc.typeName.length + 1 := rfl
  unfold returnType returnHandles
  split
  · simp only [SharedHandle.wrap, String.length_append]
    omega
  · rfl

theorem literalBody_respell (policy : Policy) (handle : SharedHandle)
    (fields : List ResolvedField) :
    literalBody (fields.map (·.respell policy handle)) = literalBody fields := by
  simp only [literalBody, fieldNames, List.isEmpty_map, List.map_map]
  rfl

theorem length_returned_arc (policy : Policy) (name : String) (variant : ResolvedVariant) :
    (returned policy .arc name (variant.respell policy .arc)).length =
      (returned policy .rc name (variant.respell policy .rc)).length + returnHandles policy := by
  have hopening : SharedHandle.arc.typeName.length = SharedHandle.rc.typeName.length + 1 := rfl
  simp only [returned, caseLiteral, ResolvedVariant.respell, literalBody_respell, returnHandles]
  split
  · simp only [String.length_append]
    omega
  · rfl

theorem length_constructorLines_arc (h : policy.usesSharedHandle = true) (options : SourceOptions)
    (name : String) (variant : ResolvedVariant) :
    (textOfLines (constructorLines options policy .arc name (variant.respell policy .arc))).length =
      (textOfLines
        (constructorLines options policy .rc name (variant.respell policy .rc))).length +
          (fieldHandles variant.fields + 2 * returnHandles policy) := by
  have hfields := length_typedFields_arc h variant.fields
  have htype := length_returnType_arc policy name
  have hvalue := length_returned_arc policy name variant
  have hname (handle : SharedHandle) : (variant.respell policy handle).name = variant.name := rfl
  have hparameters (handle : SharedHandle) : (variant.respell policy handle).fields =
      variant.fields.map (·.respell policy handle) := rfl
  simp only [constructorLines, length_textOfLines_append, length_textOfLines_cons,
    String.length_append, hname, hparameters]
  omega

/-- The definitions grow by one character wherever the handle stands. -/
theorem length_definitions_arc (h : policy.usesSharedHandle = true) (options : SourceOptions)
    (family : ResolvedFamily) :
    (textOfLines (definitions options policy .arc (family.respell policy .arc))).length =
      (textOfLines (definitions options policy .rc (family.respell policy .rc))).length +
        (family.variants.map (variantHandles policy)).sum := by
  have hcases := length_textOfLines_map (length_caseLine_arc h) family.variants
  have hconstructors := length_textOfLines_intercalate
    (length_constructorLines_arc h options family.name) family.variants
  have hsum : (family.variants.map (variantHandles policy)).sum =
      (family.variants.map fun variant => fieldHandles variant.fields).sum +
        (family.variants.map fun variant =>
          fieldHandles variant.fields + 2 * returnHandles policy).sum := by
    rw [← List.sum_map_add]
    congr 2
    funext variant
    rw [variantHandles]
    omega
  simp only [definitions, enumeration, constructorBlock, ResolvedFamily.respell,
    length_textOfLines_append, List.map_map, Function.comp_def]
  omega

/-- Where a constructor returns no handle, the definitions name none besides those in the fields. -/
theorem definitions_congr (h : policy = .shared → family.variants = [])
    (options : SourceOptions) (handle other : SharedHandle) :
    definitions options policy handle family = definitions options policy other family := by
  by_cases hpolicy : policy = .shared
  · simp only [definitions, constructorBlock, h hpolicy, List.map_nil]
  · have hlines (handle : SharedHandle) : constructorLines options policy handle family.name =
        constructorLines options policy other family.name := by
      funext variant
      simp only [constructorLines, returnType, returned, if_neg hpolicy]
    simp only [definitions, constructorBlock, hlines handle]

end ClosedUnion

variable {strategy : Strategy} {resolver : Resolver} {source : Family}

theorem spelling_congr {kind : TypeKind} (h : kind = .final ∨ policy = .owned) (declared : String)
    (handle other : SharedHandle) :
    spelling policy handle declared kind = spelling policy other declared kind := by
  rcases h with rfl | rfl
  · rfl
  · cases kind <;> rfl

theorem respell_congr (h : ∀ field ∈ family.fields, field.kind = .final ∨ policy = .owned)
    (handle other : SharedHandle) :
    family.respell policy handle = family.respell policy other := by
  have hvariants : ∀ variant ∈ family.variants,
      variant.respell policy handle = variant.respell policy other := by
    intro variant hvariant
    have hfields : ∀ field ∈ variant.fields,
        field.respell policy handle = field.respell policy other := by
      intro field hfield
      have hkind := h field (List.mem_flatMap.mpr ⟨variant, hvariant, hfield⟩)
      rw [ResolvedField.respell, ResolvedField.respell, spelling_congr hkind _ handle other]
    rw [ResolvedVariant.respell, ResolvedVariant.respell, List.map_congr_left hfields]
  rw [ResolvedFamily.respell, ResolvedFamily.respell, List.map_congr_left hvariants]

/-- The definitions of a resolved family with its types spelled with a handle. -/
def definitionsWith (strategy : Strategy) (options : SourceOptions) (resolver : Resolver)
    (family : ResolvedFamily) (handle : SharedHandle) : String :=
  textOfLines (definitions strategy options { resolver with handle }
    (family.respell resolver.policy handle))

/-- Another handle is shown where two handles give different definitions. -/
theorem showsHandle_iff (hresolved : resolver.resolveFamily source = .ok family) :
    ShowsHandle strategy options resolver source ↔ ∃ handle other,
      definitionsWith strategy options resolver family handle ≠
        definitionsWith strategy options resolver family other := by
  have hrespelled (handle : SharedHandle) : { resolver with handle }.resolveFamily source =
      .ok (family.respell resolver.policy handle) := by
    have hnames : resolver.SameNames { resolver with handle } :=
      ⟨fun _ => Iff.rfl, fun _ => Iff.rfl⟩
    rw [Resolver.resolveFamily_respell hnames, hresolved]
    rfl
  have hown : family = family.respell resolver.policy resolver.handle :=
    Except.ok.inj (hresolved.symm.trans (hrespelled resolver.handle))
  constructor
  · rintro ⟨handle, first, second, hfirst, hsecond, hne⟩
    obtain rfl := Except.ok.inj (hresolved.symm.trans hfirst)
    obtain rfl := Except.ok.inj ((hrespelled handle).symm.trans hsecond)
    exact ⟨resolver.handle, handle, by rwa [definitionsWith, ← hown]⟩
  · rintro ⟨handle, other, hne⟩
    by_contra hsame
    -- If no handle gave other definitions than the resolver's own, all would give the same.
    have heq (handle : SharedHandle) : definitionsWith strategy options resolver family handle =
        textOfLines (definitions strategy options resolver family) := by
      by_contra hother
      exact hsame ⟨handle, family, _, hresolved, hrespelled handle, fun heq => hother heq.symm⟩
    exact hne ((heq handle).trans (heq other).symm)

theorem definitionsWith_eq_of_not_buildsHandle (h : ¬ family.BuildsHandle resolver.policy)
    (options : SourceOptions) (handle other : SharedHandle) :
    definitionsWith .closedUnion options resolver family handle =
      definitionsWith .closedUnion options resolver family other := by
  simp only [ResolvedFamily.BuildsHandle, ← kind_ne_final_iff, not_or, not_exists, not_and,
    ne_eq, not_not] at h
  obtain ⟨hfields, hvariants⟩ := h
  have hrespelled : family.respell resolver.policy handle = family.respell resolver.policy other :=
    respell_congr (fun field hfield => .inl (hfields field hfield)) handle other
  have hnone : resolver.policy = .shared →
      (family.respell resolver.policy other).variants = [] := by
    intro hshared
    rw [ResolvedFamily.respell, hvariants hshared]
    rfl
  rw [definitionsWith, definitionsWith, hrespelled]
  exact congrArg textOfLines (ClosedUnion.definitions_congr hnone options handle other)

theorem definitionsWith_ne_of_buildsHandle (hpolicy : resolver.policy.usesSharedHandle = true)
    (h : family.BuildsHandle resolver.policy) (options : SourceOptions) :
    definitionsWith .closedUnion options resolver family .arc ≠
      definitionsWith .closedUnion options resolver family .rc := by
  intro heq
  have hlength : (definitionsWith .closedUnion options resolver family .arc).length =
      (definitionsWith .closedUnion options resolver family .rc).length +
        (family.variants.map (variantHandles resolver.policy)).sum :=
    ClosedUnion.length_definitions_arc hpolicy options family
  have hpos := variantHandles_pos h
  rw [heq] at hlength
  omega

theorem definitionsWith_eq_of_owned (h : resolver.policy = .owned) (options : SourceOptions)
    (handle other : SharedHandle) :
    definitionsWith .openPolymorphic options resolver family handle =
      definitionsWith .openPolymorphic options resolver family other := by
  have hrespelled : family.respell resolver.policy handle = family.respell resolver.policy other :=
    respell_congr (fun _ _ => .inr h) handle other
  rw [definitionsWith, definitionsWith, hrespelled]
  rfl

/-- The definitions of a closed layout show the handle where a type or a value is built with it. -/
theorem showsHandle_iff_buildsHandle (hpolicy : strategy.supports resolver.policy = true)
    (hresolved : resolver.resolveFamily source = .ok family) :
    ShowsHandle strategy options resolver source ↔
      strategy = .closedUnion ∧ family.BuildsHandle resolver.policy := by
  rw [showsHandle_iff hresolved]
  cases strategy with
  | closedUnion =>
    constructor
    · rintro ⟨handle, other, hne⟩
      refine ⟨rfl, ?_⟩
      by_contra hbuilds
      exact hne (definitionsWith_eq_of_not_buildsHandle hbuilds options handle other)
    · rintro ⟨-, hbuilds⟩
      exact ⟨.arc, .rc, definitionsWith_ne_of_buildsHandle hpolicy hbuilds options⟩
  | openPolymorphic =>
    have howned : resolver.policy = .owned := by simpa [Strategy.supports] using hpolicy
    constructor
    · rintro ⟨handle, other, hne⟩
      exact absurd (definitionsWith_eq_of_owned howned options handle other) hne
    · rintro ⟨hclosed, -⟩
      cases hclosed

end Source

end TreeTypes
