import TreeTypes.Proofs.Resolution.Dependencies

/-!
# Spelling of references

A policy and a handle say how references to other nodes are spelled, and nothing else. `spelling` is
the table of these spellings. Under another policy a family is resolved to the same fields of the
same kinds with their types spelled anew, and where it cannot be resolved the same field is to
blame: the first one, in the order of the schema, whose declared type no rule covers.
-/

namespace TreeTypes

/-- How a declared type of some kind is spelled under a policy and a handle. -/
def spelling (policy : Policy) (handle : SharedHandle) (declared : String) : TypeKind → String
  | .final => declared
  | .dynamic =>
    match policy with
    | .shared | .value => handle.typeName ++ "<dyn Any>"
    | .owned => "Box<dyn Any>"
  | .selfReference | .crossFamily _ =>
    match policy with
    | .shared | .value => handle.typeName ++ "<" ++ declared ++ ">"
    | .owned => "Box<dyn " ++ declared ++ ">"

/-- The field that was resolved. -/
def ResolvedField.declared (field : ResolvedField) : Field := ⟨field.name, field.declaredType⟩

/-- The field with its type spelled under a policy and a handle. -/
def ResolvedField.respell (policy : Policy) (handle : SharedHandle) (field : ResolvedField) :
    ResolvedField :=
  { field with type := spelling policy handle field.declaredType field.kind }

/-- The variant that was resolved. -/
def ResolvedVariant.declared (variant : ResolvedVariant) : Variant :=
  ⟨variant.name, variant.fields.map (·.declared)⟩

/-- The variant with its types spelled under a policy and a handle. -/
def ResolvedVariant.respell (policy : Policy) (handle : SharedHandle) (variant : ResolvedVariant) :
    ResolvedVariant :=
  { variant with fields := variant.fields.map (·.respell policy handle) }

namespace ResolvedFamily

/-- The family that was resolved. -/
def declared (family : ResolvedFamily) : Family :=
  ⟨family.name, family.variants.map (·.declared)⟩

/-- The family with its types spelled under a policy and a handle. -/
def respell (policy : Policy) (handle : SharedHandle) (family : ResolvedFamily) : ResolvedFamily :=
  { family with variants := family.variants.map (·.respell policy handle) }

theorem fields_respell (policy : Policy) (handle : SharedHandle) (family : ResolvedFamily) :
    (family.respell policy handle).fields = family.fields.map (·.respell policy handle) := by
  simp only [fields, respell, List.flatMap_map, List.map_flatMap, ResolvedVariant.respell]

/-- Spelling the types anew keeps every kind. -/
theorem kinds_respell (policy : Policy) (handle : SharedHandle) (family : ResolvedFamily) :
    (family.respell policy handle).fields.map (·.kind) = family.fields.map (·.kind) := by
  rw [fields_respell, List.map_map]
  rfl

end ResolvedFamily

namespace Resolver

variable {resolver first second : Resolver} {family declared type : String} {kind : TypeKind}

theorem dynamicHandle_eq (resolver : Resolver) :
    resolver.dynamicHandle = spelling resolver.policy resolver.handle dynamicType .dynamic := by
  obtain ⟨policy, handle, families, externTypes⟩ := resolver
  cases policy <;> cases handle <;> rfl

theorem familyHandle_eq (resolver : Resolver) (declared : String) :
    resolver.familyHandle declared =
      spelling resolver.policy resolver.handle declared .selfReference := by
  obtain ⟨policy, handle, families, externTypes⟩ := resolver
  cases policy <;> rfl

theorem Maps.type_eq (h : Maps resolver family declared type kind) :
    type = spelling resolver.policy resolver.handle declared kind := by
  cases h with
  | dynamic => exact resolver.dynamicHandle_eq
  | selfReference => exact resolver.familyHandle_eq family
  | crossFamily => exact resolver.familyHandle_eq declared
  | final => rfl

/-- The types of a resolved family are spelled by the table. -/
theorem spelled_of_resolveFamily {family : Family} {resolved : ResolvedFamily}
    (h : resolver.resolveFamily family = .ok resolved) : ∀ field ∈ resolved.fields,
      field.type = spelling resolver.policy resolver.handle field.declaredType field.kind := by
  intro field hfield
  obtain ⟨source, -, hdeclared, hmaps⟩ := exists_of_forall₂_of_mem (forall₂_fields h).flip hfield
  rw [hdeclared]
  exact hmaps.type_eq

theorem declared_of_resolveVariant {variant : Variant} {resolved : ResolvedVariant}
    (h : resolver.resolveVariant family variant = .ok resolved) : resolved.declared = variant := by
  obtain ⟨hname, hfields⟩ := resolveVariant_eq_ok_iff.mp h
  have hdeclared : variant.fields.map id = resolved.fields.map (·.declared) := by
    refine map_eq_map_of_forall₂ (hfields.imp fun field result hresult => ?_)
    obtain ⟨hresultName, hresultType, -⟩ := resolveField_eq_ok_iff.mp hresult
    rw [ResolvedField.declared, hresultName, hresultType, id]
  rw [ResolvedVariant.declared, hname, ← hdeclared, List.map_id]

/-- Resolving loses, adds and moves nothing. -/
theorem declared_of_resolveFamily {family : Family} {resolved : ResolvedFamily}
    (h : resolver.resolveFamily family = .ok resolved) : resolved.declared = family := by
  obtain ⟨hname, hvariants, -⟩ := resolveFamily_eq_ok_iff.mp h
  have hdeclared : family.variants.map id = resolved.variants.map (·.declared) :=
    map_eq_map_of_forall₂ (hvariants.imp fun _ _ hresult =>
      (declared_of_resolveVariant hresult).symm)
  rw [ResolvedFamily.declared, hname, ← hdeclared, List.map_id]

/-- Two resolvers know the same families and the same types from elsewhere, in whatever order. -/
structure SameNames (first second : Resolver) : Prop where
  families : ∀ name, name ∈ first.families ↔ name ∈ second.families
  externTypes : ∀ name, name ∈ first.externTypes ↔ name ∈ second.externTypes

theorem SameNames.refl (resolver : Resolver) : resolver.SameNames resolver :=
  ⟨fun _ => Iff.rfl, fun _ => Iff.rfl⟩

theorem SameNames.symm (h : first.SameNames second) : second.SameNames first :=
  ⟨fun name => (h.families name).symm, fun name => (h.externTypes name).symm⟩

theorem SameNames.isFinal (h : first.SameNames second) (declared : String) :
    first.isFinal declared = second.isFinal declared := by
  have hextern : first.externTypes.contains declared = second.externTypes.contains declared := by
    rw [Bool.eq_iff_iff, List.contains_iff_mem, List.contains_iff_mem]
    exact h.externTypes declared
  rw [Resolver.isFinal, Resolver.isFinal, hextern]

theorem Maps.respell (hnames : first.SameNames second) (h : Maps first family declared type kind) :
    Maps second family declared (spelling second.policy second.handle declared kind) kind := by
  cases h with
  | dynamic => exact second.dynamicHandle_eq ▸ .dynamic
  | selfReference hdynamic => exact second.familyHandle_eq family ▸ .selfReference hdynamic
  | crossFamily hdynamic hself hregistered =>
    exact second.familyHandle_eq declared ▸
      .crossFamily hdynamic hself ((hnames.families declared).mp hregistered)
  | final hdynamic hself hunregistered hfinal =>
    exact .final hdynamic hself (mt (hnames.families declared).mpr hunregistered)
      (hnames.isFinal declared ▸ hfinal)

theorem resolve_respell (hnames : first.SameNames second) (family declared : String) :
    second.resolve family declared = (first.resolve family declared).map fun (_, kind) =>
      (spelling second.policy second.handle declared kind, kind) := by
  cases hfirst : first.resolve family declared with
  | some mapped => exact resolve_eq_some_iff.mpr ((resolve_eq_some_iff.mp hfirst).respell hnames)
  | none =>
    cases hsecond : second.resolve family declared with
    | none => rfl
    | some mapped =>
      have hmaps := (resolve_eq_some_iff.mp hsecond).respell hnames.symm
      rw [← resolve_eq_some_iff, hfirst] at hmaps
      cases hmaps

theorem resolveField_respell (hnames : first.SameNames second) (family variant : String)
    (field : Field) : second.resolveField family variant field =
      (first.resolveField family variant field).map
        (ResolvedField.respell second.policy second.handle) := by
  rw [resolveField, resolveField, resolve_respell hnames]
  cases first.resolve family field.type <;> rfl

theorem resolveVariant_respell (hnames : first.SameNames second) (family : String)
    (variant : Variant) : second.resolveVariant family variant =
      (first.resolveVariant family variant).map
        (ResolvedVariant.respell second.policy second.handle) := by
  have hfields : second.resolveField family variant.name = fun field =>
      (first.resolveField family variant.name field).map
        (ResolvedField.respell second.policy second.handle) :=
    funext (resolveField_respell hnames family variant.name)
  rw [resolveVariant, resolveVariant, hfields, mapM_map]
  cases variant.fields.mapM (first.resolveField family variant.name) <;> rfl

/-- Under another policy and handle a family is resolved to the same, spelled anew. -/
theorem resolveFamily_respell (hnames : first.SameNames second) (family : Family) :
    second.resolveFamily family = (first.resolveFamily family).map
      (ResolvedFamily.respell second.policy second.handle) := by
  have hvariants : second.resolveVariant family.name = fun variant =>
      (first.resolveVariant family.name variant).map
        (ResolvedVariant.respell second.policy second.handle) :=
    funext (resolveVariant_respell hnames family.name)
  rw [resolveFamily, resolveFamily, hvariants, mapM_map]
  cases family.variants.mapM (first.resolveVariant family.name) with
  | error failure => rfl
  | ok variants =>
    have hkinds : ∀ variant : ResolvedVariant,
        (variant.respell second.policy second.handle).fields.map (·.kind) =
          variant.fields.map (·.kind) := by
      intro variant
      rw [ResolvedVariant.respell, List.map_map]
      rfl
    simp only [Except.map, bind, Except.bind, pure, Except.pure, ResolvedFamily.respell,
      List.flatMap_map, hkinds]

/-- The order in which names are known does not matter. -/
theorem resolveFamily_congr (hnames : first.SameNames second)
    (hpolicy : first.policy = second.policy) (hhandle : first.handle = second.handle)
    (family : Family) :
    first.resolveFamily family = second.resolveFamily family := by
  rw [resolveFamily_respell hnames.symm, hpolicy, hhandle, ← resolveFamily_respell (.refl second)]

/-- A rule of the mapping covers a declared type. -/
inductive Covers (resolver : Resolver) (family : String) : (declared : String) → Prop
  | dynamic : Covers resolver family "Any"
  | selfReference : Covers resolver family family
  | crossFamily {declared : String} : declared ∈ resolver.families →
      Covers resolver family declared
  | primitive {declared : String} : declared ∈ primitiveTypes → Covers resolver family declared
  | elsewhere {declared : String} : declared ∈ resolver.externTypes →
      Covers resolver family declared
  | compound {declared : String} {c : Char} : c ∈ declared.toList →
      c ∈ ['<', '>', '(', ')', '[', ']', '&', ','] → Covers resolver family declared

theorem covers_of_isFinal (h : resolver.isFinal declared = true) :
    Covers resolver family declared := by
  simp only [isFinal, isCompoundType, Bool.or_eq_true, List.contains_iff_mem, List.any_eq_true] at h
  rcases h with (hprimitive | hextern) | ⟨c, hmem, hc⟩
  · exact .primitive hprimitive
  · exact .elsewhere hextern
  · exact .compound hmem hc

theorem isFinal_of_covers (h : Covers resolver family declared) (hdynamic : declared ≠ dynamicType)
    (hself : declared ≠ family) (hunregistered : declared ∉ resolver.families) :
    resolver.isFinal declared = true := by
  simp only [isFinal, isCompoundType, Bool.or_eq_true, List.contains_iff_mem, List.any_eq_true]
  cases h with
  | dynamic => exact absurd rfl hdynamic
  | selfReference => exact absurd rfl hself
  | crossFamily hregistered => exact absurd hregistered hunregistered
  | primitive hprimitive => exact .inl (.inl hprimitive)
  | elsewhere hextern => exact .inl (.inr hextern)
  | compound hmem hc => exact .inr ⟨_, hmem, hc⟩

theorem exists_maps_iff :
    (∃ type kind, Maps resolver family declared type kind) ↔ Covers resolver family declared := by
  constructor
  · rintro ⟨type, kind, _ | _ | ⟨-, -, hregistered⟩ | ⟨-, -, -, hfinal⟩⟩
    · exact .dynamic
    · exact .selfReference
    · exact .crossFamily hregistered
    · exact covers_of_isFinal hfinal
  · intro hcovers
    by_cases hdynamic : declared = dynamicType
    · exact hdynamic ▸ ⟨_, _, .dynamic⟩
    by_cases hself : declared = family
    · exact hself ▸ ⟨_, _, .selfReference (hself ▸ hdynamic)⟩
    by_cases hregistered : declared ∈ resolver.families
    · exact ⟨_, _, .crossFamily hdynamic hself hregistered⟩
    · exact ⟨_, _, .final hdynamic hself hregistered
        (isFinal_of_covers hcovers hdynamic hself hregistered)⟩

theorem resolve_eq_none_iff :
    resolver.resolve family declared = none ↔ ¬ Covers resolver family declared := by
  rw [← exists_maps_iff, Option.eq_none_iff_forall_ne_some]
  simp only [ne_eq, Prod.forall, resolve_eq_some_iff, not_exists]

variable {variant : Variant} {field : Field} {unresolved : UnresolvedType}

theorem resolveField_eq_error_iff {variant : String} :
    resolver.resolveField family variant field = .error unresolved ↔
      ¬ Covers resolver family field.type ∧
        unresolved = ⟨family, variant, field.name, field.type⟩ := by
  rw [← resolve_eq_none_iff, resolveField]
  cases resolver.resolve family field.type <;> simp [eq_comm]

theorem exists_resolveField_iff (variant : String) :
    (∃ result, resolver.resolveField family variant field = .ok result) ↔
      Covers resolver family field.type := by
  rw [← not_iff_not, ← resolve_eq_none_iff, resolveField]
  cases resolver.resolve family field.type <;> simp

theorem exists_resolveVariant_iff :
    (∃ result, resolver.resolveVariant family variant = .ok result) ↔
      ∀ field ∈ variant.fields, Covers resolver family field.type := by
  simp only [← exists_resolveField_iff variant.name, ← exists_forall₂_iff,
    resolveVariant_eq_ok_iff]
  constructor
  · rintro ⟨result, -, hfields⟩
    exact ⟨result.fields, hfields⟩
  · rintro ⟨fields, hfields⟩
    exact ⟨⟨variant.name, fields⟩, rfl, hfields⟩

theorem resolveVariant_eq_error_iff :
    resolver.resolveVariant family variant = .error unresolved ↔
      variant.fields.mapM (resolver.resolveField family variant.name) = .error unresolved := by
  rw [resolveVariant]
  cases variant.fields.mapM (resolver.resolveField family variant.name) <;>
    simp [bind, Except.bind, pure, Except.pure]

theorem resolveFamily_eq_error_iff_mapM {family : Family} :
    resolver.resolveFamily family = .error unresolved ↔
      family.variants.mapM (resolver.resolveVariant family.name) = .error unresolved := by
  rw [resolveFamily]
  cases family.variants.mapM (resolver.resolveVariant family.name) <;>
    simp [bind, Except.bind, pure, Except.pure]

/-- The error names the first field of a family, in order, whose declared type no rule covers. -/
inductive FirstUncovered (resolver : Resolver) (family : Family) : UnresolvedType → Prop
  | intro {before behind : List Variant} {variant : Variant} {fields others : List Field}
      {field : Field} : family.variants = before ++ variant :: behind →
      variant.fields = fields ++ field :: others →
      (∀ earlier ∈ before, ∀ field ∈ earlier.fields, Covers resolver family.name field.type) →
      (∀ earlier ∈ fields, Covers resolver family.name earlier.type) →
      ¬ Covers resolver family.name field.type →
      FirstUncovered resolver family ⟨family.name, variant.name, field.name, field.type⟩

theorem resolveFamily_eq_error_iff {family : Family} :
    resolver.resolveFamily family = .error unresolved ↔
      FirstUncovered resolver family unresolved := by
  simp only [resolveFamily_eq_error_iff_mapM, mapM_eq_error_iff, resolveVariant_eq_error_iff,
    exists_resolveVariant_iff, exists_resolveField_iff, resolveField_eq_error_iff]
  constructor
  · rintro ⟨before, variant, behind, hvariants, hbefore, fields, field, others, hfields, hearlier,
      hfield, rfl⟩
    exact .intro hvariants hfields hbefore hearlier hfield
  · rintro ⟨hvariants, hfields, hbefore, hearlier, hfield⟩
    exact ⟨_, _, _, hvariants, hbefore, _, _, _, hfields, hearlier, hfield, rfl⟩

/-- Resolvers that know the same names fail alike, naming the first field that no rule covers, or
they resolve a family to the same fields of the same kinds. Then each spells the types by the table
for its policy and handle. -/
theorem resolveFamily_respelled (hnames : first.SameNames second) (family : Family) :
    (∃ unresolved, FirstUncovered first family unresolved ∧
      first.resolveFamily family = .error unresolved ∧
      second.resolveFamily family = .error unresolved) ∨
    ∃ one other, first.resolveFamily family = .ok one ∧ second.resolveFamily family = .ok other ∧
      one.declared = family ∧ other.declared = family ∧
      one.fields.map (·.kind) = other.fields.map (·.kind) ∧
      one.dependencies = other.dependencies ∧
      (∀ field ∈ one.fields,
        field.type = spelling first.policy first.handle field.declaredType field.kind) ∧
      ∀ field ∈ other.fields,
        field.type = spelling second.policy second.handle field.declaredType field.kind := by
  have hrespelled := resolveFamily_respell hnames family
  cases hfirst : first.resolveFamily family with
  | error unresolved =>
    rw [hfirst] at hrespelled
    exact .inl ⟨unresolved, resolveFamily_eq_error_iff.mp hfirst, rfl, hrespelled⟩
  | ok one =>
    rw [hfirst] at hrespelled
    refine .inr ⟨one, _, rfl, hrespelled, declared_of_resolveFamily hfirst,
      declared_of_resolveFamily hrespelled, (one.kinds_respell _ _).symm, rfl,
      spelled_of_resolveFamily hfirst, spelled_of_resolveFamily hrespelled⟩

/-- A resolver whose nodes are shared between threads. -/
def sharing : Resolver := ⟨.shared, .arc, ["Stmt", "Expr"], ["Token"]⟩

/-- A resolver of the same names that owns its nodes. -/
def boxing : Resolver := ⟨.owned, .rc, ["Expr", "Stmt", "Expr"], ["Token", "Token"]⟩

/-- A family with a field of every kind. -/
def printing : Family := ⟨"Stmt", [
  ⟨"Print", [⟨"value", "Expr"⟩, ⟨"end", "Token"⟩]⟩,
  ⟨"Host", [⟨"next", "Stmt"⟩, ⟨"payload", "Any"⟩, ⟨"rest", "Vec<Expr>"⟩]⟩]⟩

theorem printing_respelled : sharing.SameNames boxing ∧ ∃ one other,
    sharing.resolveFamily printing = .ok one ∧ boxing.resolveFamily printing = .ok other ∧
      one.declared = other.declared ∧ one.fields.map (·.kind) = other.fields.map (·.kind) ∧
      one.fields.map (·.type) = ["Arc<Expr>", "Token", "Arc<Stmt>", "Arc<dyn Any>", "Vec<Expr>"] ∧
      other.fields.map (·.type) =
        ["Box<dyn Expr>", "Token", "Box<dyn Stmt>", "Box<dyn Any>", "Vec<Expr>"] := by
  have hnames : sharing.SameNames boxing := by
    constructor <;> intro name <;> simp [sharing, boxing, or_comm]
  rcases resolveFamily_respelled hnames printing with ⟨unresolved, -, hfailed, -⟩ |
    ⟨one, other, hone, hother, hdeclared, hdeclared', hkinds, -, -, -⟩
  · have hfails : (sharing.resolveFamily printing).isOk = true := by decide
    rw [hfailed] at hfails
    cases hfails
  · obtain rfl := Except.ok.inj hone
    obtain rfl := Except.ok.inj hother
    exact ⟨hnames, _, _, rfl, rfl, hdeclared.trans hdeclared'.symm, hkinds, by decide, by decide⟩

end Resolver

end TreeTypes
