import TreeTypes.Proofs.Resolution.Respelling
import TreeTypes.Source.Generate

/-!
# Generated sources

A source comes into being when the strategy can express the policy and every field is resolved, and
then it is the layout of the resolved family. Types from elsewhere are the last resort of a field:
knowing more of them changes no field that is resolved without them, so a source that could be
generated stays as it is, and a field that fails can only be followed by a later one.
-/

namespace TreeTypes

/-- The fields of a family in the order of the schema, each with its place and its type. -/
def Family.places (family : Family) : List UnresolvedType :=
  family.variants.flatMap fun variant =>
    variant.fields.map fun field => ⟨family.name, variant.name, field.name, field.type⟩

namespace Resolver

variable {first second resolver : Resolver} {family declared type : String} {kind : TypeKind}
variable {field : Field} {unresolved other : UnresolvedType} {index later : Nat}

/-- The second resolver differs from the first in that it may know more types from elsewhere. -/
structure ExtendedBy (first second : Resolver) : Prop where
  policy : first.policy = second.policy
  handle : first.handle = second.handle
  families : ∀ name, name ∈ first.families ↔ name ∈ second.families
  externTypes : first.externTypes ⊆ second.externTypes

theorem ExtendedBy.dynamicHandle (h : first.ExtendedBy second) :
    first.dynamicHandle = second.dynamicHandle := by
  rw [dynamicHandle_eq, dynamicHandle_eq, h.policy, h.handle]

theorem ExtendedBy.familyHandle (h : first.ExtendedBy second) (declared : String) :
    first.familyHandle declared = second.familyHandle declared := by
  rw [familyHandle_eq, familyHandle_eq, h.policy, h.handle]

theorem ExtendedBy.isFinal (h : first.ExtendedBy second) (hfinal : first.isFinal declared = true) :
    second.isFinal declared = true := by
  simp only [Resolver.isFinal, Bool.or_eq_true, List.contains_iff_mem] at hfinal ⊢
  exact hfinal.imp_left (Or.imp_right fun hextern => h.externTypes hextern)

/-- What is mapped stays as it is, since the rules in front of the last know the same names. -/
theorem Maps.extended (h : first.ExtendedBy second) (hmaps : Maps first family declared type kind) :
    Maps second family declared type kind := by
  cases hmaps with
  | dynamic => exact h.dynamicHandle ▸ .dynamic
  | selfReference hdynamic => exact h.familyHandle family ▸ .selfReference hdynamic
  | crossFamily hdynamic hself hregistered =>
    exact h.familyHandle declared ▸
      .crossFamily hdynamic hself ((h.families declared).mp hregistered)
  | final hdynamic hself hunregistered hfinal =>
    exact .final hdynamic hself (mt (h.families declared).mpr hunregistered) (h.isFinal hfinal)

theorem Covers.extended (h : first.ExtendedBy second) (hcovers : Covers first family declared) :
    Covers second family declared := by
  obtain ⟨type, kind, hmaps⟩ := exists_maps_iff.mpr hcovers
  exact exists_maps_iff.mp ⟨type, kind, hmaps.extended h⟩

theorem resolveField_extended (h : first.ExtendedBy second) {variant : String}
    {resolved : ResolvedField} (hfield : first.resolveField family variant field = .ok resolved) :
    second.resolveField family variant field = .ok resolved := by
  obtain ⟨hname, hdeclared, hmaps⟩ := resolveField_eq_ok_iff.mp hfield
  exact resolveField_eq_ok_iff.mpr ⟨hname, hdeclared, hmaps.extended h⟩

theorem resolveVariant_extended (h : first.ExtendedBy second) {variant : Variant}
    {resolved : ResolvedVariant} (hvariant : first.resolveVariant family variant = .ok resolved) :
    second.resolveVariant family variant = .ok resolved := by
  obtain ⟨hname, hfields⟩ := resolveVariant_eq_ok_iff.mp hvariant
  exact resolveVariant_eq_ok_iff.mpr
    ⟨hname, hfields.imp fun _ _ hfield => resolveField_extended h hfield⟩

/-- A family that is resolved stays resolved to the same. -/
theorem resolveFamily_extended (h : first.ExtendedBy second) {family : Family}
    {resolved : ResolvedFamily} (hresolved : first.resolveFamily family = .ok resolved) :
    second.resolveFamily family = .ok resolved := by
  obtain ⟨hname, hvariants, hdependencies⟩ := resolveFamily_eq_ok_iff.mp hresolved
  exact resolveFamily_eq_ok_iff.mpr
    ⟨hname, hvariants.imp fun _ _ hvariant => resolveVariant_extended h hvariant, hdependencies⟩

/-- The field with this index is the first, in the order of the schema, whose type no rule
covers. -/
structure FailsAt (resolver : Resolver) (family : Family) (index : Nat)
    (unresolved : UnresolvedType) : Prop where
  place : family.places[index]? = some unresolved
  uncovered : ¬ Covers resolver family.name unresolved.type
  covered : ∀ earlier < index, ∀ other, family.places[earlier]? = some other →
    Covers resolver family.name other.type

theorem failsAt_of_places {family : Family} {front rest : List UnresolvedType}
    (hplaces : family.places = front ++ unresolved :: rest)
    (hfront : ∀ place ∈ front, Covers resolver family.name place.type)
    (huncovered : ¬ Covers resolver family.name unresolved.type) :
    resolver.FailsAt family front.length unresolved := by
  refine ⟨?_, huncovered, fun earlier hlt other hother => ?_⟩
  · rw [hplaces, List.getElem?_append_right (Nat.le_refl _), Nat.sub_self, List.getElem?_cons_zero]
  · rw [hplaces, List.getElem?_append_left hlt] at hother
    exact hfront other (List.mem_of_getElem? hother)

theorem exists_failsAt {family : Family} (h : resolver.resolveFamily family = .error unresolved) :
    ∃ index, resolver.FailsAt family index unresolved := by
  cases resolveFamily_eq_error_iff.mp h with
  | @intro before behind variant fields others field hvariants hfields hbefore hearlier hfield =>
    let front : List UnresolvedType := (Family.mk family.name before).places ++
      fields.map fun field => ⟨family.name, variant.name, field.name, field.type⟩
    obtain ⟨rest, hplaces⟩ : ∃ rest, family.places =
        front ++ ⟨family.name, variant.name, field.name, field.type⟩ :: rest := by
      simp only [front, Family.places, hvariants, hfields, List.flatMap_append, List.flatMap_cons,
        List.map_append, List.map_cons, List.append_assoc, List.cons_append]
      exact ⟨_, rfl⟩
    refine ⟨front.length, failsAt_of_places hplaces (fun place hplace => ?_) hfield⟩
    simp only [front, Family.places, List.mem_append, List.mem_flatMap, List.mem_map] at hplace
    rcases hplace with ⟨earlier, hmem, declared, hdeclared, rfl⟩ | ⟨declared, hdeclared, rfl⟩
    · exact hbefore earlier hmem declared hdeclared
    · exact hearlier declared hdeclared

/-- With more types from elsewhere no earlier field fails. -/
theorem FailsAt.le {family : Family} (h : first.ExtendedBy second)
    (hfirst : first.FailsAt family index unresolved)
    (hsecond : second.FailsAt family later other) : index ≤ later := by
  by_contra hlt
  have hcovered := hfirst.covered later (Nat.lt_of_not_le hlt) other hsecond.place
  exact hsecond.uncovered (hcovered.extended h)

end Resolver

theorem Source.layout_congr {first second : Resolver} {strategy : Strategy}
    {options : SourceOptions} (hpolicy : first.policy = second.policy)
    (hhandle : first.handle = second.handle) (preludeLines : List String)
    (family : ResolvedFamily) :
    layout strategy options first preludeLines family =
      layout strategy options second preludeLines family := by
  cases strategy <;> simp only [layout, requiredImports, definitions, hpolicy, hhandle]

namespace Generator

variable {generator : Generator} {resolver first second : Resolver} {preludeLines : List String}
variable {family : Family} {resolved : ResolvedFamily} {text : String}
variable {unresolved : UnresolvedType}

theorem result_generate (generator : Generator) (resolver : Resolver) (preludeLines : List String)
    (family : Family) : (generator.generate resolver preludeLines family).result =
      (do
        generator.checkPolicy resolver.policy
        let resolved ← (resolver.resolveFamily family).mapError .unresolvedType
        return Source.textOfLines
          (Source.layout generator.strategy generator.options resolver preludeLines resolved)) := by
  rw [generate, Traced.result_bind, Traced.result_ofExcept]
  congr 1
  funext _
  rw [Traced.result_bind, Traced.result_ofExcept]
  congr 1
  funext resolved
  rw [Traced.result_bind, Traced.result_log]
  split <;> rfl

theorem generate_eq_ok_iff : (generator.generate resolver preludeLines family).result = .ok text ↔
    generator.strategy.supports resolver.policy = true ∧
      ∃ resolved, resolver.resolveFamily family = .ok resolved ∧ Source.textOfLines
        (Source.layout generator.strategy generator.options resolver preludeLines resolved) =
          text := by
  rw [result_generate, checkPolicy]
  cases generator.strategy.supports resolver.policy <;>
    cases resolver.resolveFamily family <;>
      simp [Except.mapError, bind, Except.bind, pure, Except.pure]

theorem generate_eq_unresolved_iff :
    (generator.generate resolver preludeLines family).result =
        .error (.unresolvedType unresolved) ↔
      generator.strategy.supports resolver.policy = true ∧
        resolver.resolveFamily family = .error unresolved := by
  rw [result_generate, checkPolicy]
  cases generator.strategy.supports resolver.policy <;>
    cases resolver.resolveFamily family <;>
      simp [Except.mapError, bind, Except.bind, pure, Except.pure]

/-- Types from elsewhere change no source that is generated without them. Where a field fails, the
source is generated with them, or the same field or a later one fails. -/
theorem generate_extended (h : first.ExtendedBy second) (generator : Generator)
    (preludeLines : List String) (family : Family) :
    (∀ text, (generator.generate first preludeLines family).result = .ok text →
      (generator.generate second preludeLines family).result = .ok text) ∧
    ∀ unresolved, (generator.generate first preludeLines family).result =
        .error (.unresolvedType unresolved) →
      ∃ index, first.FailsAt family index unresolved ∧
        ((∃ text, (generator.generate second preludeLines family).result = .ok text) ∨
          ∃ later other, index ≤ later ∧ second.FailsAt family later other ∧
            (generator.generate second preludeLines family).result =
              .error (.unresolvedType other)) := by
  constructor
  · intro text htext
    obtain ⟨hsupports, resolved, hresolved, rfl⟩ := generate_eq_ok_iff.mp htext
    refine generate_eq_ok_iff.mpr
      ⟨h.policy ▸ hsupports, resolved, Resolver.resolveFamily_extended h hresolved, ?_⟩
    rw [Source.layout_congr h.policy h.handle]
  · intro unresolved hunresolved
    obtain ⟨hsupports, hfails⟩ := generate_eq_unresolved_iff.mp hunresolved
    obtain ⟨index, hindex⟩ := Resolver.exists_failsAt hfails
    refine ⟨index, hindex, ?_⟩
    cases hsecond : second.resolveFamily family with
    | ok resolved =>
      exact .inl ⟨_, generate_eq_ok_iff.mpr ⟨h.policy ▸ hsupports, resolved, hsecond, rfl⟩⟩
    | error other =>
      obtain ⟨later, hlater⟩ := Resolver.exists_failsAt hsecond
      exact .inr ⟨later, other, hindex.le h hlater, hlater,
        generate_eq_unresolved_iff.mpr ⟨h.policy ▸ hsupports, hsecond⟩⟩

/-- Sources in the closed layout. -/
def closed : Generator := ⟨.closedUnion, {}⟩

/-- A resolver that is told of more types. Some have the name of a type that another rule covers. -/
def sharingMore : Resolver :=
  ⟨.shared, .arc, ["Expr", "Stmt"], ["Any", "Expr", "Object", "Stmt", "Token", "bool"]⟩

/-- A family with two types that no family or primitive is called by. -/
def calling : Family := ⟨"Stmt", [
  ⟨"Print", [⟨"end", "Token"⟩]⟩,
  ⟨"Call", [⟨"callee", "Expr"⟩, ⟨"target", "Object"⟩]⟩,
  ⟨"Get", [⟨"name", "Name"⟩]⟩]⟩

theorem sharing_extended : Resolver.sharing.ExtendedBy sharingMore ∧
    (∃ text, (closed.generate Resolver.sharing [] Resolver.printing).result = .ok text ∧
      (closed.generate sharingMore [] Resolver.printing).result = .ok text) ∧
    (closed.generate Resolver.sharing [] calling).result =
      .error (.unresolvedType ⟨"Stmt", "Call", "target", "Object"⟩) ∧
    (closed.generate sharingMore [] calling).result =
      .error (.unresolvedType ⟨"Stmt", "Get", "name", "Name"⟩) ∧
    ∃ index later, index ≤ later ∧
      Resolver.sharing.FailsAt calling index ⟨"Stmt", "Call", "target", "Object"⟩ ∧
      sharingMore.FailsAt calling later ⟨"Stmt", "Get", "name", "Name"⟩ := by
  have hextended : Resolver.sharing.ExtendedBy sharingMore := by
    refine ⟨rfl, rfl, fun name => ?_, by decide⟩
    simp [Resolver.sharing, sharingMore, or_comm]
  have hprinted : ∃ text,
      (closed.generate Resolver.sharing [] Resolver.printing).result = .ok text :=
    ⟨_, generate_eq_ok_iff.mpr ⟨rfl, _, rfl, rfl⟩⟩
  have hfirst : (closed.generate Resolver.sharing [] calling).result =
      .error (.unresolvedType ⟨"Stmt", "Call", "target", "Object"⟩) :=
    generate_eq_unresolved_iff.mpr ⟨rfl, by decide⟩
  have hsecond : (closed.generate sharingMore [] calling).result =
      .error (.unresolvedType ⟨"Stmt", "Get", "name", "Name"⟩) :=
    generate_eq_unresolved_iff.mpr ⟨rfl, by decide⟩
  obtain ⟨text, htext⟩ := hprinted
  have hsame := (generate_extended hextended closed [] Resolver.printing).1 text htext
  obtain ⟨index, hindex, hlater⟩ :=
    (generate_extended hextended closed [] calling).2 _ hfirst
  refine ⟨hextended, ⟨text, htext, hsame⟩, hfirst, hsecond, index, ?_⟩
  rcases hlater with ⟨other, hother⟩ | ⟨later, other, hle, hfails, hother⟩
  · rw [hsecond] at hother
    cases hother
  · rw [hsecond] at hother
    obtain rfl := Error.unresolvedType.inj (Except.error.inj hother)
    exact ⟨later, hle, hindex, hfails⟩

end Generator

end TreeTypes
