import TreeTypes.Proofs.Run.InMemory
import TreeTypes.Proofs.Source.Generation

/-!
# Targets on their own

What a run makes of a target depends on the entries of its family, on how sources are generated and
on which names are known. Neither the entries of other families nor the other targets matter, nor
does the order or the repetition of names. A run is its targets rendered one after the other, so it
gives every target the text that any run of the same setting gives it.
-/

namespace TreeTypes

variable {first second : Resolver} {strategy : Strategy} {options : SourceOptions}

/-- A source depends on the names that are known and not on their order. -/
theorem Generator.generate_congr (hnames : first.SameNames second)
    (hpolicy : first.policy = second.policy) (hhandle : first.handle = second.handle)
    (generator : Generator) (preludeLines : List String) (family : Family) :
    generator.generate first preludeLines family =
      generator.generate second preludeLines family := by
  simp only [generate, Resolver.resolveFamily_congr hnames hpolicy hhandle,
    Source.layout_congr hpolicy hhandle, hpolicy]

namespace RunConfig

/-- Two configurations generate sources in the same way, and their schemas and types from elsewhere
have the same names. -/
structure SameSetting (first second : RunConfig) (firstSchema secondSchema : Schema) : Prop where
  strategy : first.strategy = second.strategy
  policy : first.effectivePolicy = second.effectivePolicy
  handle : first.handle = second.handle
  options : first.options = second.options
  families : ∀ name, name ∈ firstSchema.familyNames ↔ name ∈ secondSchema.familyNames
  externTypes : ∀ name, name ∈ first.externTypes ↔ name ∈ second.externTypes

variable {first second config : RunConfig} {firstSchema secondSchema schema : Schema}
variable {target : Target}

theorem SameSetting.generator (h : SameSetting first second firstSchema secondSchema) :
    first.generator = second.generator := by
  rw [RunConfig.generator, RunConfig.generator, h.strategy, h.options]

theorem SameSetting.generate (h : SameSetting first second firstSchema secondSchema) :
    first.generator.generate (first.resolver firstSchema.familyNames) =
      second.generator.generate (second.resolver secondSchema.familyNames) := by
  have hnames : (first.resolver firstSchema.familyNames).SameNames
      (second.resolver secondSchema.familyNames) := ⟨h.families, h.externTypes⟩
  rw [h.generator]
  funext preludeLines family
  exact Generator.generate_congr hnames h.policy h.handle second.generator preludeLines family

/-- The first family of a name is known by its entries. -/
theorem family?_eq_of_entries {name : String}
    (h : (firstSchema.family? name).map (·.entries) =
      (secondSchema.family? name).map (·.entries)) :
    firstSchema.family? name = secondSchema.family? name := by
  have hraw : ∀ schema : Schema, schema.family? name =
      ((schema.family? name).map (·.entries)).map (RawFamily.mk name) := by
    intro schema
    cases hfound : schema.family? name with
    | none => rfl
    | some raw => rw [Option.map_some, Option.map_some, ← family?_name hfound]
  rw [hraw firstSchema, hraw secondSchema, h]

/-- A target is rendered alike, with the same events, from schemas that agree on its family. -/
theorem SameSetting.renderTarget (h : SameSetting first second firstSchema secondSchema)
    (hentries : (firstSchema.family? target.name).map (·.entries) =
      (secondSchema.family? target.name).map (·.entries)) :
    first.renderTarget firstSchema target = second.renderTarget secondSchema target := by
  simp only [RunConfig.renderTarget, family?_eq_of_entries hentries, h.generate, h.strategy,
    h.policy]

/-- A run renders its targets one after the other. -/
theorem result_renderTargets (config : RunConfig) (schema : Schema) (targets : List Target) :
    (config.renderTargets schema targets).result =
      targets.mapM fun target => (config.renderTarget schema target).result := by
  induction targets with
  | nil => rfl
  | cons target rest ih =>
    simp only [renderTargets, Traced.result_bind, Traced.result_pure, List.mapM_cons, ih]
    rfl

theorem result_renderSchema (config : RunConfig) (schema : Schema) :
    (config.renderSchema schema).result =
      config.targets.mapM fun target => (config.renderTarget schema target).result := by
  rw [renderSchema, Traced.result_bind, Traced.result_log]
  exact config.result_renderTargets schema config.targets

/-- A target is rendered alike under the same setting, whatever stands beside it. A run that
succeeds has this text in the place of the target, and a run that comes to a target that cannot be
rendered fails with its error. -/
theorem renderTarget_isolated (h : SameSetting first second firstSchema secondSchema)
    (hentries : (firstSchema.family? target.name).map (·.entries) =
      (secondSchema.family? target.name).map (·.entries)) :
    first.renderTarget firstSchema target = second.renderTarget secondSchema target ∧
    ∀ before behind, first.targets = before ++ target :: behind →
      (∀ rendered, (first.renderSchema firstSchema).result = .ok rendered →
        ∃ family, (second.renderTarget secondSchema target).result = .ok family ∧
          rendered[before.length]? = some family) ∧
      ∀ error, (second.renderTarget secondSchema target).result = .error error →
        (∀ earlier ∈ before,
          ∃ family, (first.renderTarget firstSchema earlier).result = .ok family) →
        (first.renderSchema firstSchema).result = .error error := by
  have hsame := h.renderTarget hentries
  refine ⟨hsame, fun before behind htargets => ?_⟩
  rw [result_renderSchema, htargets, ← hsame]
  constructor
  · intro rendered hrendered
    exact getElem?_of_forall₂ (mapM_eq_ok_iff.mp hrendered)
  · intro error herror hbefore
    exact mapM_eq_error_iff.mpr ⟨before, target, behind, rfl, hbefore, herror⟩

/-- The target of the family `Stmt`. -/
def stmtTarget : Target := { name := "Stmt", output := ⟨"stmt.rs"⟩ }

/-- A run with this target alone. -/
def stmtOnly : RunConfig where
  schema := ⟨"schema.json"⟩
  externTypes := ["Token", "Object"]
  targets := [stmtTarget]

/-- A run that names the policy and has another target in front. -/
def stmtLast : RunConfig where
  schema := ⟨"other.json"⟩
  policy := some .shared
  externTypes := ["Object", "Token", "Object"]
  targets := [{ name := "Expr", output := ⟨"expr.rs"⟩ }, stmtTarget]

/-- The entries of the family `Stmt`. -/
def stmtEntries : List String := ["Print : Expr value, Token end", "Block : Stmt inner"]

/-- A schema of two families. -/
def plainSchema : Schema := ⟨[⟨"Expr", ["Literal : Object value"]⟩, ⟨"Stmt", stmtEntries⟩]⟩

/-- A schema of the same names, in which the other family cannot be read and `Stmt` is repeated. -/
def repeatingSchema : Schema := ⟨[⟨"Stmt", stmtEntries⟩, ⟨"Expr", ["bad"]⟩, ⟨"Stmt", []⟩]⟩

theorem stmtTarget_isolated : SameSetting stmtOnly stmtLast plainSchema repeatingSchema ∧
    ∃ family, (stmtLast.renderTarget repeatingSchema stmtTarget).result = .ok family ∧
      (stmtOnly.renderSchema plainSchema).result = .ok [family] := by
  have hsetting : SameSetting stmtOnly stmtLast plainSchema repeatingSchema := by
    refine ⟨rfl, rfl, rfl, rfl, fun name => ?_, fun name => ?_⟩
    · simp [Schema.familyNames, plainSchema, repeatingSchema]
      tauto
    · simp [stmtOnly, stmtLast]
      tauto
  obtain ⟨rendered, hrendered⟩ : ∃ rendered,
      (stmtOnly.renderSchema plainSchema).result = .ok rendered :=
    exists_of_isOk (by decide +kernel)
  have hlength : rendered.length = 1 := by
    rw [result_renderSchema] at hrendered
    exact (mapM_eq_ok_iff.mp hrendered).length_eq.symm
  have hentries : (plainSchema.family? stmtTarget.name).map (·.entries) =
      (repeatingSchema.family? stmtTarget.name).map (·.entries) := rfl
  obtain ⟨-, hrun⟩ := renderTarget_isolated hsetting hentries
  obtain ⟨family, hfamily, hplace⟩ := (hrun [] [] rfl).1 rendered hrendered
  obtain ⟨first, rfl⟩ := List.length_eq_one_iff.mp hlength
  obtain rfl := Option.some.inj hplace
  exact ⟨hsetting, first, hfamily, hrendered⟩

end RunConfig

end TreeTypes
