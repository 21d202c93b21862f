import TreeTypes.Proofs.Output.Repeat
import TreeTypes.Proofs.Run.AllOrNothing

/-!
# Repeated runs

A tree is settled for a configuration when a check finds nothing stale, which is the same as that a
run writes nothing. A run that succeeds settles the tree provided that its outputs are independent,
that none of them, nor a staged file or a backup, stands where the schema is read, and that no
special file stands where an output is staged. Otherwise the writing of one target can undo that of
another, and validation does not notice.
-/

namespace TreeTypes.RunConfig

open OnDisk

variable {faults : Faults} {config : RunConfig} {tree : FileTree} {rendered : List RenderedFamily}
variable {written : List WrittenFamily}

/-- Neither a check nor a run finds anything to do. -/
structure Settled (faults : Faults) (config : RunConfig) (tree : FileTree) : Prop where
  check : ((config.check : OnDisk faults _).on tree).1.result = .ok []
  run : ((config.run : OnDisk faults _).on tree).1.result =
    .ok (config.targets.map fun target => ⟨target.name, target.output, .unchanged⟩)
  tree : ((config.run : OnDisk faults _).on tree).2 = tree

theorem settled_of_upToDate
    (hrender : (config.rendering (tree.readText config.schema)).result = .ok rendered)
    (hfresh : ∀ output ∈ outputsOf rendered, output.upToDate tree = true) :
    Settled faults config tree where
  check := by
    have hnone : (rendered.filter fun family => !(outputOf family).upToDate tree) = [] := by
      simpa [outputsOf_eq_map] using hfresh
    rw [on_check, hrender, Except.map, hnone]
  run := by
    have hnames :
        rendered.map (fun family => WrittenFamily.mk family.family family.output .unchanged) =
          config.targets.map fun target => ⟨target.name, target.output, .unchanged⟩ := by
      simpa [Function.comp_def] using congrArg
        (List.map fun named => WrittenFamily.mk named.1 named.2 .unchanged)
        (rendering_eq_ok hrender).2
    rw [(on_run_of_ok hrender).1, Output.on_writeAll_of_upToDate hfresh]
    simp only [reportWritten, writtenOf_map, hnames]
  tree := by
    rw [(on_run_of_ok hrender).2, Output.on_writeAll_of_upToDate hfresh]

/-- A tree is settled exactly when its outputs hold what is rendered from it. -/
theorem settled_iff_upToDate : Settled faults config tree ↔
    ∃ rendered, (config.rendering (tree.readText config.schema)).result = .ok rendered ∧
      ∀ output ∈ outputsOf rendered, output.upToDate tree = true := by
  constructor
  · intro hsettled
    have hcheck := hsettled.check
    rw [on_check] at hcheck
    cases hrender : (config.rendering (tree.readText config.schema)).result with
    | error error => simp [hrender, Except.map] at hcheck
    | ok rendered =>
      refine ⟨rendered, rfl, ?_⟩
      simpa [hrender, Except.map, outputsOf_eq_map] using hcheck
  · rintro ⟨rendered, hrender, hfresh⟩
    exact settled_of_upToDate hrender hfresh

/-- The schema is read from no location that an output touches. -/
def SchemaApart (config : RunConfig) (tree : FileTree) : Prop :=
  ∀ output ∈ config.blankOutputs, ∀ location ∈ output.locations,
    tree.resolve true config.schema ≠ .ok (.found location)

instance (config : RunConfig) (tree : FileTree) : Decidable (config.SchemaApart tree) :=
  inferInstanceAs (Decidable (∀ output ∈ config.blankOutputs, ∀ location ∈ output.locations,
    tree.resolve true config.schema ≠ .ok (.found location)))

/-- No special file stands where an output is staged: it would keep nothing of the text. -/
def StagesFiles (config : RunConfig) (tree : FileTree) : Prop :=
  ∀ output ∈ config.blankOutputs, tree.isSpecial output.staging = false

instance (config : RunConfig) (tree : FileTree) : Decidable (config.StagesFiles tree) :=
  inferInstanceAs (Decidable (∀ output ∈ config.blankOutputs,
    tree.isSpecial output.staging = false))

/-- Each output that is rendered has the path of a target. -/
theorem exists_blankOutput {source : Except FileError String} {output : Output}
    (hrender : (config.rendering source).result = .ok rendered)
    (houtput : output ∈ outputsOf rendered) :
    ∃ blank ∈ config.blankOutputs, blank.path = output.path := by
  have hpath : output.path ∈ config.targets.map (·.output) :=
    paths_outputsOf hrender ▸ List.mem_map_of_mem houtput
  rw [← paths_blankOutputs] at hpath
  exact List.mem_map.mp hpath

/-- The schema is read as before after the outputs have been written. -/
theorem readText_schema {middle after : FileTree} {text : String}
    (hrender : (config.rendering (.ok text)).result = .ok rendered)
    (hindependent : Output.Independent tree (outputsOf rendered))
    (hschema : config.SchemaApart tree)
    (hcommitted : Output.Committed faults (outputsOf rendered) tree middle after)
    (htext : tree.readText config.schema = .ok text) :
    after.readText config.schema = .ok text := by
  refine FileTree.readText_of_keeps (hcommitted.keeps hindependent) ?_ htext
  intro location hresolve hne
  refine (hcommitted.staging.grownAway hcommitted.changesOnly).item?_of_ne_none ?_ hne
  intro hmem
  obtain ⟨output, houtput, hlocation⟩ := List.mem_flatMap.mp hmem
  obtain ⟨blank, hblank, hpath⟩ :=
    exists_blankOutput hrender (Output.stale_subset output houtput)
  exact hschema blank hblank location (Output.locations_congr hpath ▸ hlocation) hresolve

/-- A run that succeeds leaves a settled tree exactly when what is rendered from it is what its
outputs hold. This is so when the outputs are independent and staged as files and the schema is
apart from them. -/
theorem run_settles (hok : ((config.run : OnDisk faults _).on tree).1.result = .ok written) :
    let after := ((config.run : OnDisk faults _).on tree).2
    (Settled faults config after ↔
      ∃ rendered, (config.rendering (after.readText config.schema)).result = .ok rendered ∧
        ∀ output ∈ outputsOf rendered, output.upToDate after = true) ∧
    (Output.Independent tree config.blankOutputs → config.SchemaApart tree →
      config.StagesFiles tree → Settled faults config after) := by
  intro after
  refine ⟨settled_iff_upToDate, fun hindependent hschema hfiles => ?_⟩
  cases hrender : (config.rendering (tree.readText config.schema)).result with
  | error error => simp [(on_run_of_error hrender).1] at hok
  | ok rendered =>
    obtain ⟨⟨text, htext⟩, -⟩ := rendering_eq_ok hrender
    obtain ⟨hresult, htree⟩ := on_run_of_ok hrender
    obtain ⟨statuses, hwrite, -⟩ := reportWritten_eq_ok_iff.mp (hresult ▸ hok)
    have hall := independent_outputsOf hindependent hrender
    rcases Output.on_writeAll faults hall with ⟨failure, hfailure, -⟩ | ⟨-, middle, hcommitted⟩
    · simp [hfailure] at hwrite
    · rw [← htree] at hcommitted
      have htext' := readText_schema (htext ▸ hrender) hall hschema hcommitted htext
      have hrender' : (config.rendering (after.readText config.schema)).result = .ok rendered := by
        rw [htext', ← htext, hrender]
      refine settled_of_upToDate hrender' fun output houtput => ?_
      obtain ⟨blank, hblank, hpath⟩ := exists_blankOutput hrender houtput
      have hspecial := hfiles blank hblank
      rw [Output.staging, hpath] at hspecial
      exact hcommitted.upToDate_after hall houtput hspecial

/-- The schema is there and no output is. -/
def nothingWritten : FileTree := ⟨[("schema.json", .file twoFamiliesText.toUTF8)]⟩

theorem nothingWritten_settles :
    Output.Independent nothingWritten twoFamilies.blankOutputs ∧
      twoFamilies.SchemaApart nothingWritten ∧ twoFamilies.StagesFiles nothingWritten ∧
      Settled .never twoFamilies ((twoFamilies.run : OnDisk .never _).on nothingWritten).2 := by
  have hok : ((twoFamilies.run : OnDisk .never _).on nothingWritten).1.result =
      .ok [⟨"A", ⟨"src/a.rs"⟩, .written⟩, ⟨"B", ⟨"src/b.rs"⟩, .written⟩] := by decide +kernel
  exact ⟨by decide +kernel, by decide +kernel, by decide +kernel,
    (run_settles hok).2 (by decide +kernel) (by decide +kernel) (by decide +kernel)⟩

/-- The second text replaces the first, which is reported as unchanged. -/
theorem writeAll_aliases_ok (schema : ByteArray) {first second : String} (hne : first ≠ second) :
    (Output.writeAll (aliases first second) : OnDisk .never WriteReport).on
        (aliasHolding schema first) =
      (⟨.ok [(⟨"a.rs"⟩, .unchanged), (⟨"./a.rs"⟩, .written)], []⟩,
        aliasHolding schema second) := by
  have hread : (aliasHolding schema first).readText ⟨"a.rs"⟩ = .ok first :=
    FileTree.readText_of_found ["a.rs"] rfl rfl
  have hread' : (aliasHolding schema first).readText ⟨"./a.rs"⟩ = .ok first :=
    FileTree.readText_of_found ["a.rs"] rfl rfl
  have hstage : (Output.stage ⟨"./a.rs"⟩ second : OnDisk .never _).on (aliasHolding schema first) =
      (.ok ⟨⟨"./a.rs.astgen-tmp"⟩, ⟨"./a.rs"⟩⟩, aliasStaged schema first second) := by
    rfl
  have hcommit : (Output.commit [] [⟨⟨"./a.rs.astgen-tmp"⟩, ⟨"./a.rs"⟩⟩] : OnDisk .never _).on
      (aliasStaged schema first second) = ((.ok (), []), aliasHolding schema second) := by
    rfl
  simp only [Output.writeAll, aliases, Output.stageAll, on_bind,
    Output.on_isUpToDate_of_eq hread, Output.on_isUpToDate_of_ne hread' hne, hstage, on_pure,
    ↓reduceIte, Bool.false_eq_true, Except.map, List.nil_append, hcommit]

/-- A valid configuration whose run succeeds and leaves its first output stale. -/
theorem not_settled_of_valid :
    ¬ ∀ (config : RunConfig) (tree : FileTree) (written : List WrittenFamily),
      config.validate = .ok () → ((config.run : OnDisk .never _).on tree).1.result = .ok written →
      Settled .never config ((config.run : OnDisk .never _).on tree).2 := by
  intro h
  obtain ⟨first, second, -, -, hne, hrendering⟩ := aliasedFamilies_rendering
  have hrender : ∀ text, (aliasedFamilies.rendering
      ((aliasHolding twoFamiliesText.toUTF8 text).readText aliasedFamilies.schema)).result =
      .ok [⟨"A", ⟨"a.rs"⟩, first⟩, ⟨"B", ⟨"./a.rs"⟩, second⟩] := fun text => by
    rw [readText_aliasedFamilies_schema text, hrendering]
  obtain ⟨hresult, hafter⟩ := on_run_of_ok (hrender first)
  have hwriting := writeAll_aliases_ok twoFamiliesText.toUTF8 hne
  change (Output.writeAll (outputsOf [⟨"A", ⟨"a.rs"⟩, first⟩, ⟨"B", ⟨"./a.rs"⟩, second⟩]) :
    OnDisk .never WriteReport).on _ = _ at hwriting
  rw [hwriting] at hresult hafter
  have hsettled := h aliasedFamilies _ _ (by decide +kernel) hresult
  rw [hafter] at hsettled
  obtain ⟨rendered, hrendered, hfresh⟩ := settled_iff_upToDate.mp hsettled
  rw [hrender second] at hrendered
  obtain rfl := Except.ok.inj hrendered
  have hfirst : (aliasHolding twoFamiliesText.toUTF8 second).readText ⟨"a.rs"⟩ = .ok first :=
    Output.upToDate_iff.mp (hfresh ⟨⟨"a.rs"⟩, first⟩ (List.mem_cons_self ..))
  rw [FileTree.readText_of_found ["a.rs"] rfl rfl] at hfirst
  exact hne (Except.ok.inj hfirst).symm

end TreeTypes.RunConfig
