import TreeTypes.Proofs.Grammar.InOrder
import TreeTypes.Proofs.Output.Written
import TreeTypes.Run.Generation

/-!
# Runs on a tree

Rendering looks at one file of the tree, the schema, and changes none. A run is therefore a
rendering followed by `writeAll`, and a check is a rendering followed by as many comparisons as
there are targets. What was rendered names the targets with their outputs in order.
-/

namespace TreeTypes

open OnDisk FileAccess

variable {faults : Faults} {config : RunConfig} {schema : Schema} {target : Target}
variable {targets : List Target} {tree : FileTree} {rendered : List RenderedFamily}

theorem Traced.result_eq_ok_of_bind {ω ε α β : Type} {x : Traced ω ε α} {f : α → Traced ω ε β}
    {b : β} (h : (x >>= f).result = .ok b) : ∃ a, x.result = .ok a ∧ (f a).result = .ok b := by
  rw [Traced.result_bind] at h
  cases hx : x.result with
  | error failure =>
    rw [hx] at h
    cases h
  | ok a =>
    rw [hx] at h
    exact ⟨a, rfl, h⟩

theorem Traced.result_bind_eq_ok_iff {ω ε α β : Type} {x : Traced ω ε α} {f : α → Traced ω ε β}
    {b : β} : (x >>= f).result = .ok b ↔ ∃ a, x.result = .ok a ∧ (f a).result = .ok b := by
  refine ⟨Traced.result_eq_ok_of_bind, ?_⟩
  rintro ⟨a, ha, hb⟩
  rw [Traced.result_bind, ha]
  exact hb

namespace RunConfig

/-- What a configuration renders from the text of its schema, or from the failure to read it. -/
def rendering (config : RunConfig) (source : Except FileError String) :
    Run (List RenderedFamily) :=
  match config.validate with
  | .error fault => .ofExcept (.error (.config fault))
  | .ok () =>
    match source with
    | .error failure => .ofExcept (.error (.schemaLoad ⟨config.schema.text, .unreadable failure⟩))
    | .ok text =>
      match Schema.parse config.schema.text text with
      | .error error => .ofExcept (.error (.schemaLoad error))
      | .ok schema => config.renderSchema schema

/-- Rendering depends on the text of the schema and leaves the tree alone. -/
theorem on_render (config : RunConfig) (tree : FileTree) :
    (config.render : OnDisk faults _).on tree =
      (config.rendering (tree.readText config.schema), tree) := by
  unfold render rendering
  cases config.validate with
  | error fault => rfl
  | ok _ =>
    simp only [Schema.load, on_bind, on_readText]
    cases tree.readText config.schema with
    | error failure => rfl
    | ok text =>
      simp only [on_pure]
      cases Schema.parse config.schema.text text <;> rfl

/-- A target comes out as a rendered family from a schema whose families have the given names. -/
def Generates (config : RunConfig) (names : List String) (schema : Schema) (target : Target)
    (rendered : RenderedFamily) : Prop :=
  ∃ raw family contents, schema.family? target.name = some raw ∧ raw.read.result = .ok family ∧
    (config.generator.generate (config.resolver names) target.preludeLines family).result =
      .ok contents ∧
    rendered = ⟨target.name, target.output, contents⟩

theorem renderTarget_eq_ok_iff {rendered : RenderedFamily} :
    (config.renderTarget schema target).result = .ok rendered ↔
      config.Generates schema.familyNames schema target rendered := by
  simp only [renderTarget, Generates, Traced.result_bind_eq_ok_iff, Traced.result_ofExcept,
    Traced.result_log, Traced.result_pure, Except.ok.injEq]
  cases schema.family? target.name with
  | none => simp
  | some raw =>
    constructor
    · rintro ⟨_, hraw, family, hfamily, contents, hcontents, _, _, rfl⟩
      obtain rfl := Except.ok.inj hraw
      exact ⟨raw, family, contents, rfl, hfamily, hcontents, rfl⟩
    · rintro ⟨_, family, contents, hraw, hfamily, hcontents, rfl⟩
      obtain rfl := Option.some.inj hraw
      exact ⟨raw, rfl, family, hfamily, contents, hcontents, (), trivial, rfl⟩

theorem renderTargets_eq_ok_iff : (config.renderTargets schema targets).result = .ok rendered ↔
    List.Forall₂ (config.Generates schema.familyNames schema) targets rendered := by
  induction targets generalizing rendered with
  | nil => simp [renderTargets, eq_comm]
  | cons target rest ih =>
    simp only [renderTargets, Traced.result_bind_eq_ok_iff, renderTarget_eq_ok_iff, ih,
      Traced.result_pure, Except.ok.injEq, List.forall₂_cons_left_iff]
    constructor
    · rintro ⟨first, hfirst, others, hothers, rfl⟩
      exact ⟨first, others, hfirst, hothers, rfl⟩
    · rintro ⟨first, others, hfirst, hothers, rfl⟩
      exact ⟨first, hfirst, others, hothers, rfl⟩

/-- What was rendered stands in the order of the targets. -/
theorem renderTargets_eq_ok (h : (config.renderTargets schema targets).result = .ok rendered) :
    rendered.map (fun family => (family.family, family.output)) =
      targets.map fun target => (target.name, target.output) := by
  refine (map_eq_map_of_forall₂ ((renderTargets_eq_ok_iff.mp h).imp ?_)).symm
  rintro target _ ⟨raw, family, contents, -, -, -, rfl⟩
  rfl

theorem rendering_eq_ok {source : Except FileError String}
    (h : (config.rendering source).result = .ok rendered) :
    (∃ text, source = .ok text) ∧ rendered.map (fun family => (family.family, family.output)) =
      config.targets.map fun target => (target.name, target.output) := by
  unfold rendering at h
  split at h
  case h_1 => simp at h
  case h_2 =>
    split at h
    case h_1 => simp at h
    case h_2 text =>
      split at h
      case h_1 => simp at h
      case h_2 schema hparse =>
        obtain ⟨-, -, h⟩ := Traced.result_eq_ok_of_bind h
        exact ⟨⟨text, rfl⟩, renderTargets_eq_ok h⟩

theorem on_run_of_error {error : Error}
    (h : (config.rendering (tree.readText config.schema)).result = .error error) :
    ((config.run : OnDisk faults _).on tree).1.result = .error error ∧
      ((config.run : OnDisk faults _).on tree).2 = tree := by
  simp only [run, on_bind, on_render, h, on_pure, and_self]

/-- A run whose targets have been rendered is the writing of its outputs. -/
theorem on_run_of_ok
    (h : (config.rendering (tree.readText config.schema)).result = .ok rendered) :
    let writing := (Output.writeAll (outputsOf rendered) : OnDisk faults WriteReport).on tree
    ((config.run : OnDisk faults _).on tree).1.result = (reportWritten rendered writing.1).result ∧
      ((config.run : OnDisk faults _).on tree).2 = writing.2 := by
  simp only [run, on_bind, on_render, h, on_pure, Traced.result_after, and_self]

theorem reportWritten_eq_ok_iff {report : WriteReport} {written : List WrittenFamily} :
    (reportWritten rendered report).result = .ok written ↔
      ∃ statuses, report.result = .ok statuses ∧ writtenOf rendered statuses = written := by
  unfold reportWritten
  cases report.result <;> simp

theorem reportWritten_eq_error_iff {report : WriteReport} {error : Error} :
    (reportWritten rendered report).result = .error error ↔
      ∃ failure, report.result = .error failure ∧ error = .write failure := by
  unfold reportWritten
  cases report.result <;> simp [eq_comm]

/-- The output of a rendered family. -/
def outputOf (family : RenderedFamily) : Output := ⟨family.output, family.contents⟩

theorem outputsOf_eq_map (rendered : List RenderedFamily) :
    outputsOf rendered = rendered.map outputOf := rfl

theorem writtenOf_map (rendered : List RenderedFamily) (status : Output → WriteStatus) :
    writtenOf rendered ((outputsOf rendered).map fun output => (output.path, status output)) =
      rendered.map fun family => ⟨family.family, family.output, status (outputOf family)⟩ := by
  induction rendered with
  | nil => rfl
  | cons family rest ih => simpa [writtenOf, outputsOf, outputOf] using ih

theorem on_staleAmong (rendered : List RenderedFamily) (tree : FileTree) :
    (staleAmong rendered : OnDisk faults _).on tree =
      (rendered.filter fun family => !(outputOf family).upToDate tree, tree) := by
  induction rendered with
  | nil => simp [staleAmong]
  | cons family rest ih =>
    have hfresh : (Output.isUpToDate family.output family.contents : OnDisk faults Bool).on tree =
        _ := Output.on_isUpToDate (outputOf family) tree
    simp only [staleAmong, on_bind, hfresh, ih, on_pure, outputOf]
    cases hvalue : Output.upToDate ⟨family.output, family.contents⟩ tree <;> simp [hvalue]

/-- A check fails as the rendering does, and else names the stale families in order. -/
theorem on_check (config : RunConfig) (tree : FileTree) :
    ((config.check : OnDisk faults _).on tree).1.result =
      (config.rendering (tree.readText config.schema)).result.map fun rendered =>
        rendered.filter fun family => !(outputOf family).upToDate tree := by
  simp only [check, on_bind, on_render]
  cases (config.rendering (tree.readText config.schema)).result with
  | error error => rfl
  | ok rendered =>
    simp only [on_bind, on_staleAmong, on_pure]
    rfl

end RunConfig

end TreeTypes
