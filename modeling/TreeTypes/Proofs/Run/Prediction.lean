import Mathlib.Data.List.Nodup
import TreeTypes.Proofs.Run.AllOrNothing

/-!
# What a check predicts

A check compares every output with the tree as it stands, a run compares an output after those in
front of it have been staged. For independent outputs the two see the same, so that a run writes
what a check has found stale. Rendering never fails to write; this tells the failures that a check
shares with a run from those that only a run can meet.
-/

namespace TreeTypes

open OnDisk

/-- A part of a run that does not fail to write. -/
def Run.NeverWrites {α : Type} (x : Run α) : Prop :=
  ∀ failure, x.result ≠ .error (.write failure)

namespace Run.NeverWrites

variable {α β : Type}

theorem of_ok {x : Run α} {a : α} (h : x.result = .ok a) : NeverWrites x := by
  intro failure hfailure
  simp [h] at hfailure

theorem of_error {x : Run α} {error : Error} (h : x.result = .error error)
    (hne : ∀ failure, error ≠ .write failure) : NeverWrites x := by
  intro failure hfailure
  rw [h] at hfailure
  exact hne failure (Except.error.inj hfailure)

theorem bind {x : Run α} {f : α → Run β} (hx : NeverWrites x) (hf : ∀ a, NeverWrites (f a)) :
    NeverWrites (x >>= f) := by
  intro failure hfailure
  rw [Traced.result_bind] at hfailure
  cases hresult : x.result with
  | error error =>
    rw [hresult] at hfailure
    obtain rfl := Except.error.inj hfailure
    exact hx failure hresult
  | ok a =>
    rw [hresult] at hfailure
    exact hf a failure hfailure

theorem of_mapError {ε : Type} {result : Except ε α} {wrap : ε → Error}
    (hwrap : ∀ error failure, wrap error ≠ .write failure) :
    NeverWrites (.ofExcept (result.mapError wrap)) := by
  cases result with
  | ok a => exact of_ok rfl
  | error error => exact of_error rfl (hwrap error)

end Run.NeverWrites

open Run

variable {faults : Faults} {config : RunConfig} {tree : FileTree} {rendered : List RenderedFamily}

theorem RawFamily.read_neverWrites (raw : RawFamily) : NeverWrites raw.read := by
  refine .bind (.of_mapError (by simp)) fun family => ?_
  exact .bind (.of_ok rfl) fun _ => .of_ok rfl

theorem Generator.generate_neverWrites (generator : Generator) (resolver : Resolver)
    (preludeLines : List String) (family : Family) :
    NeverWrites (generator.generate resolver preludeLines family) := by
  refine .bind ?_ fun _ => .bind (.of_mapError (by simp)) fun resolved => ?_
  · unfold checkPolicy
    split
    · exact .of_ok rfl
    · exact .of_error rfl (by simp)
  · refine .bind (.of_ok rfl) fun _ => ?_
    split
    · exact .bind (.of_ok rfl) fun _ => .of_ok rfl
    · exact .of_ok rfl

namespace RunConfig

theorem renderTarget_neverWrites (config : RunConfig) (schema : Schema) (target : Target) :
    NeverWrites (config.renderTarget schema target) := by
  refine .bind ?_ fun raw => .bind raw.read_neverWrites fun family =>
    .bind (config.generator.generate_neverWrites _ _ family) fun _ =>
      .bind (.of_ok rfl) fun _ => .of_ok rfl
  split
  · exact .of_ok rfl
  · exact .of_error rfl (by simp)

theorem renderTargets_neverWrites (config : RunConfig) (schema : Schema)
    (targets : List Target) : NeverWrites (config.renderTargets schema targets) := by
  induction targets with
  | nil => exact .of_ok rfl
  | cons target rest ih =>
    exact .bind (config.renderTarget_neverWrites schema target) fun _ =>
      .bind ih fun _ => .of_ok rfl

theorem rendering_neverWrites (config : RunConfig) (source : Except FileError String) :
    NeverWrites (config.rendering source) := by
  unfold rendering
  split
  · exact .of_error rfl (by simp)
  · split
    · exact .of_error rfl (by simp)
    · split
      · exact .of_error rfl (by simp)
      · exact .bind (.of_ok rfl) fun _ => config.renderTargets_neverWrites _ _

/-- A check fails as a run does that cannot render its targets. -/
theorem check_eq_error_iff {error : Error} :
    ((config.check : OnDisk faults _).on tree).1.result = .error error ↔
      ((config.run : OnDisk faults _).on tree).1.result = .error error ∧
        ∀ failure, error ≠ .write failure := by
  have hnever := config.rendering_neverWrites (tree.readText config.schema)
  rw [on_check]
  cases hrender : (config.rendering (tree.readText config.schema)).result with
  | error fault =>
    rw [(on_run_of_error hrender).1]
    simp only [Except.map, Except.error.injEq]
    constructor
    · rintro rfl
      exact ⟨rfl, fun failure hfailure => hnever failure (hfailure ▸ hrender)⟩
    · exact And.left
  | ok rendered =>
    refine iff_of_false (by simp [Except.map]) ?_
    rintro ⟨hfailed, hother⟩
    rw [(on_run_of_ok hrender).1] at hfailed
    obtain ⟨failure, -, hfailure⟩ := reportWritten_eq_error_iff.mp hfailed
    exact hother failure hfailure

/-- A check that succeeds lists the rendered families whose outputs hold something else. -/
theorem check_eq_ok_iff {stale : List RenderedFamily} :
    ((config.check : OnDisk faults _).on tree).1.result = .ok stale ↔
      ∃ rendered, (config.rendering (tree.readText config.schema)).result = .ok rendered ∧
        (rendered.filter fun family => !(outputOf family).upToDate tree) = stale := by
  rw [on_check]
  cases (config.rendering (tree.readText config.schema)).result <;> simp [Except.map]

/-- What a run has written is what a check found stale. -/
structure Predicts (config : RunConfig) (stale : List RenderedFamily)
    (written : List WrittenFamily) : Prop where
  /-- There is one entry for each target, in the order of the targets. -/
  targets : written.map (fun family => (family.family, family.output)) =
    config.targets.map fun target => (target.name, target.output)
  /-- A target is written if it is listed as stale, and only then. -/
  status : ∀ entry ∈ written, entry.status = .written ↔
    ∃ family ∈ stale, family.family = entry.family ∧ family.output = entry.output
  /-- The stale targets are listed in the order of the targets. -/
  order : (written.filter (·.status = .written)).map
      (fun family => (family.family, family.output)) =
    stale.map fun family => (family.family, family.output)

/-- What is reported for a rendered family by a run that starts on a tree. -/
def reportOn (tree : FileTree) (family : RenderedFamily) : WrittenFamily :=
  ⟨family.family, family.output, (outputOf family).status tree⟩

/-- A run that writes independent outputs reports on each as the tree stands before. -/
theorem run_eq_ok {written : List WrittenFamily}
    (hrender : (config.rendering (tree.readText config.schema)).result = .ok rendered)
    (hindependent : Output.Independent tree (outputsOf rendered))
    (hok : ((config.run : OnDisk faults _).on tree).1.result = .ok written) :
    written = rendered.map (reportOn tree) := by
  rw [(on_run_of_ok hrender).1] at hok
  obtain ⟨statuses, hwrite, rfl⟩ := reportWritten_eq_ok_iff.mp hok
  rcases Output.on_writeAll faults hindependent with ⟨failure, hfailure, -⟩ | ⟨hstatuses, -⟩
  · simp [hfailure] at hwrite
  · obtain rfl := Except.ok.inj (hstatuses.symm.trans hwrite)
    exact writtenOf_map rendered (·.status tree)

theorem status_eq_written_iff {output : Output} :
    output.status tree = .written ↔ output.upToDate tree = false := by
  unfold Output.status
  split <;> simp_all

/-- No two independent outputs have the same path. -/
theorem nodup_outputs (hindependent : Output.Independent tree (outputsOf rendered)) :
    (rendered.map (·.output)).Nodup := by
  have hne : ∀ a b : Output, a.Separated b → a.path ≠ b.path := by
    intro a b hseparated hpath
    have hmem : a.destination ∈ b.locations := Output.locations_congr hpath ▸ a.destination_mem
    exact (hseparated _ a.destination_mem _ hmem).1 List.prefix_rfl
  have hpairwise := hindependent.separated.imp @hne
  rw [outputsOf, List.pairwise_map] at hpairwise
  exact List.pairwise_map.mpr hpairwise

theorem predicts_of_rendering
    (hrender : (config.rendering (tree.readText config.schema)).result = .ok rendered)
    (hnodup : (rendered.map (·.output)).Nodup) :
    Predicts config (rendered.filter fun family => !(outputOf family).upToDate tree)
      (rendered.map (reportOn tree)) where
  targets := by
    rw [← (rendering_eq_ok hrender).2, List.map_map]
    rfl
  status := by
    rw [List.forall_mem_map]
    intro family hfamily
    simp only [reportOn, status_eq_written_iff, List.mem_filter, Bool.not_eq_true']
    constructor
    · intro hstale
      exact ⟨family, ⟨hfamily, hstale⟩, rfl, rfl⟩
    · rintro ⟨other, ⟨hother, hstale⟩, -, houtput⟩
      obtain rfl := List.inj_on_of_nodup_map hnodup hother hfamily houtput
      exact hstale
  order := by
    have hreported : ∀ family : RenderedFamily,
        decide ((reportOn tree family).status = .written) = !(outputOf family).upToDate tree := by
      intro family
      simp [reportOn, status_eq_written_iff]
    rw [List.filter_map, List.map_map]
    simp only [Function.comp_def, hreported]
    rfl

/-- A check fails exactly when a run fails with an error other than of writing, and with the same
error. What it lists as stale is what a run then writes that succeeds on independent outputs. -/
theorem check_predicts_run (faults : Faults) (config : RunConfig) (tree : FileTree) :
    let checked := ((config.check : OnDisk faults _).on tree).1.result
    let ran := ((config.run : OnDisk faults _).on tree).1.result
    (∀ error, checked = .error error ↔
      ran = .error error ∧ ∀ failure, error ≠ .write failure) ∧
    ∀ stale written, checked = .ok stale → ran = .ok written →
      Output.Independent tree config.blankOutputs → Predicts config stale written := by
  intro checked ran
  refine ⟨fun error => check_eq_error_iff, ?_⟩
  intro stale written hchecked hran hindependent
  obtain ⟨rendered, hrender, rfl⟩ := check_eq_ok_iff.mp hchecked
  have hrendered := independent_outputsOf hindependent hrender
  obtain rfl := run_eq_ok hrender hrendered hran
  exact predicts_of_rendering hrender (nodup_outputs hrendered)

/-- Two families, written beside the schema. -/
def neighbours : RunConfig where
  schema := ⟨"schema.json"⟩
  targets := [{ name := "A", output := ⟨"a.rs"⟩ }, { name := "B", output := ⟨"b.rs"⟩ }]

/-- The files of both families hold a text. -/
def neighboursHolding (first second : String) : FileTree :=
  ⟨[("a.rs", .file first.toUTF8), ("b.rs", .file second.toUTF8),
    ("schema.json", .file twoFamiliesText.toUTF8)]⟩

/-- The second family is staged beside its file. -/
def neighboursStaged (first old second : String) : FileTree :=
  ⟨("b.rs.astgen-tmp", .file second.toUTF8) :: (neighboursHolding first old).entries⟩

/-- Only the second file is replaced when the first one holds its text. -/
theorem writeAll_second {first old second : String} (hne : old ≠ second) :
    ((Output.writeAll [⟨⟨"a.rs"⟩, first⟩, ⟨⟨"b.rs"⟩, second⟩] : OnDisk .never WriteReport).on
      (neighboursHolding first old)).1.result =
        .ok [(⟨"a.rs"⟩, .unchanged), (⟨"b.rs"⟩, .written)] := by
  have hread : (neighboursHolding first old).readText ⟨"a.rs"⟩ = .ok first :=
    FileTree.readText_of_found ["a.rs"] rfl rfl
  have hread' : (neighboursHolding first old).readText ⟨"b.rs"⟩ = .ok old :=
    FileTree.readText_of_found ["b.rs"] rfl rfl
  have hstage : (Output.stage ⟨"b.rs"⟩ second : OnDisk .never _).on (neighboursHolding first old) =
      (.ok ⟨⟨"b.rs.astgen-tmp"⟩, ⟨"b.rs"⟩⟩, neighboursStaged first old second) := by
    rfl
  have hcommit : (Output.commit [] [⟨⟨"b.rs.astgen-tmp"⟩, ⟨"b.rs"⟩⟩] : OnDisk .never _).on
      (neighboursStaged first old second) =
        ((.ok (), []), ⟨[("b.rs", .file second.toUTF8), ("a.rs", .file first.toUTF8),
          ("schema.json", .file twoFamiliesText.toUTF8)]⟩) := by
    rfl
  simp only [Output.writeAll, Output.stageAll, on_bind, Output.on_isUpToDate_of_eq hread,
    Output.on_isUpToDate_of_ne hread' hne, hstage, on_pure, ↓reduceIte, Bool.false_eq_true,
    Except.map, List.nil_append, hcommit]

theorem neighbours_rendering : "old" ≠ aliasedTexts.2 ∧
    (neighbours.rendering (.ok twoFamiliesText)).result =
      .ok [⟨"A", ⟨"a.rs"⟩, aliasedTexts.1⟩, ⟨"B", ⟨"b.rs"⟩, aliasedTexts.2⟩] :=
  ⟨by decide +kernel, by decide +kernel⟩

/-- The first family is up to date, the second is stale. -/
theorem on_neighbours {first second : String} (hne : "old" ≠ second)
    (hrendering : (neighbours.rendering (.ok twoFamiliesText)).result =
      .ok [⟨"A", ⟨"a.rs"⟩, first⟩, ⟨"B", ⟨"b.rs"⟩, second⟩]) :
    ((neighbours.check : OnDisk .never _).on (neighboursHolding first "old")).1.result =
        .ok [⟨"B", ⟨"b.rs"⟩, second⟩] ∧
      ((neighbours.run : OnDisk .never _).on (neighboursHolding first "old")).1.result =
        .ok [⟨"A", ⟨"a.rs"⟩, .unchanged⟩, ⟨"B", ⟨"b.rs"⟩, .written⟩] := by
  have hschema : (neighboursHolding first "old").readText neighbours.schema =
      .ok twoFamiliesText := FileTree.readText_of_found ["schema.json"] rfl rfl
  have hfresh : (neighboursHolding first "old").readText ⟨"a.rs"⟩ = .ok first :=
    FileTree.readText_of_found ["a.rs"] rfl rfl
  have hold : (neighboursHolding first "old").readText ⟨"b.rs"⟩ = .ok "old" :=
    FileTree.readText_of_found ["b.rs"] rfl rfl
  rw [← hschema] at hrendering
  constructor
  · refine check_eq_ok_iff.mpr ⟨_, hrendering, ?_⟩
    simp [outputOf, Output.upToDate, hfresh, hold, hne]
  · rw [(on_run_of_ok hrendering).1]
    exact reportWritten_eq_ok_iff.mpr ⟨_, writeAll_second hne, rfl⟩

theorem neighbours_predicted :
    Output.Independent (neighboursHolding aliasedTexts.1 "old") neighbours.blankOutputs ∧
      ((neighbours.check : OnDisk .never _).on
        (neighboursHolding aliasedTexts.1 "old")).1.result = .ok [⟨"B", ⟨"b.rs"⟩, aliasedTexts.2⟩] ∧
      ((neighbours.run : OnDisk .never _).on
        (neighboursHolding aliasedTexts.1 "old")).1.result =
          .ok [⟨"A", ⟨"a.rs"⟩, .unchanged⟩, ⟨"B", ⟨"b.rs"⟩, .written⟩] ∧
      Predicts neighbours [⟨"B", ⟨"b.rs"⟩, aliasedTexts.2⟩]
        [⟨"A", ⟨"a.rs"⟩, .unchanged⟩, ⟨"B", ⟨"b.rs"⟩, .written⟩] := by
  obtain ⟨hne, hrendering⟩ := neighbours_rendering
  obtain ⟨hcheck, hrun⟩ := on_neighbours hne hrendering
  have hindependent : Output.Independent (neighboursHolding aliasedTexts.1 "old")
      neighbours.blankOutputs := by decide +kernel
  exact ⟨hindependent, hcheck, hrun,
    (check_predicts_run .never neighbours _).2 _ _ hcheck hrun hindependent⟩

end RunConfig

end TreeTypes
