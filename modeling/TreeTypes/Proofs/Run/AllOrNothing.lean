import TreeTypes.Proofs.Files.Kept
import TreeTypes.Proofs.Run.Rendering

/-!
# Runs that fail

A run that cannot render its targets has not touched the tree. One that cannot write them gives
every output back, provided that the outputs are independent and that the disk lets everything be
undone; what it leaves is at most the staged file whose writing was cut short. Validation does not
ask for independence: it tells outputs apart by their spelling, and two spellings of one file share
their staged file and their backup, so that the second replacement destroys what is needed to undo
the first.
-/

namespace TreeTypes

open OnDisk

variable {faults : Faults} {config : RunConfig} {before after tree : FileTree} {error : Error}
variable {outputs : List Output} {location : Location} {left : List Location}

/-- No link has been made. -/
theorem Output.RolledBack.link_before (h : RolledBack outputs left before after) {target : String}
    (hleft : ∀ location ∈ left, ∃ content, after.item? location = some (.file content))
    (hlink : after.item? location = some (.link target)) :
    before.item? location = some (.link target) := by
  by_cases hmem : location ∈ outputs.flatMap Output.siblings
  · obtain ⟨output, houtput, hsibling⟩ := List.mem_flatMap.mp hmem
    have hkept : location ∉ left := by
      intro hlocation
      obtain ⟨content, hfile⟩ := hleft location hlocation
      simp [hlink] at hfile
    rcases h.siblings output houtput location hsibling hkept with hnone | heq
    · simp [hlink] at hnone
    · exact heq ▸ hlink
  · exact h.others.item?_eq hmem (by simp [hlink]) ▸ hlink

namespace RunConfig

/-- The outputs of a configuration, with their texts left blank. -/
def blankOutputs (config : RunConfig) : List Output :=
  config.targets.map fun target => ⟨target.output, ""⟩

/-- All outputs are as before, and nothing has been made but directories that they lie in and what
is left at some locations. -/
structure Undisturbed (config : RunConfig) (left : List Location) (before after : FileTree) :
    Prop where
  outputs : ∀ target ∈ config.targets,
    (after.itemAt true target.output).toOption = (before.itemAt true target.output).toOption
  created : ∀ location ∉ left, before.item? location = none → after.item? location ≠ none →
    after.item? location = some .directory ∧
      ∃ target ∈ config.targets, location <+: target.output.folder

/-- The locations at which a run that failed leaves a file of its own: none, or that of the staged
file whose writing was cut short. -/
def LeftBy (config : RunConfig) (faults : Faults) (error : Error) (after : FileTree)
    (left : List Location) : Prop :=
  left = [] ∨ ∃ (output : Output) (failure : FileError),
    output.path ∈ config.targets.map (·.output) ∧ error = .write ⟨output.path, failure⟩ ∧
      output.CutShort faults after ∧ left = [output.staging]

theorem LeftBy.eq_nil (hwhole : Output.WritesWhole faults)
    (h : LeftBy config faults error after left) : left = [] := by
  rcases h with rfl | ⟨output, -, -, -, hcut, -⟩
  · rfl
  · exact absurd hcut (hwhole.not_cutShort output after)

theorem LeftBy.of_leftover {failure : WriteFailure}
    (hpaths : outputs.map Output.path = config.targets.map (·.output))
    (h : Output.Leftover faults outputs failure.path after left) :
    LeftBy config faults (.write failure) after left := by
  refine h.imp_right ?_
  rintro ⟨output, houtput, hfailed, hcut, hleft⟩
  exact ⟨output, failure.cause, hpaths ▸ List.mem_map_of_mem houtput, by rw [hfailed], hcut, hleft⟩

theorem paths_blankOutputs (config : RunConfig) :
    config.blankOutputs.map Output.path = config.targets.map (·.output) := by
  simp [blankOutputs, Function.comp_def]

theorem paths_outputsOf {source : Except FileError String} {rendered : List RenderedFamily}
    (h : (config.rendering source).result = .ok rendered) :
    (outputsOf rendered).map Output.path = config.targets.map (·.output) := by
  simpa [outputsOf, Function.comp_def] using congrArg (List.map Prod.snd) (rendering_eq_ok h).2

/-- Whether the outputs of a configuration are independent does not depend on what is rendered. -/
theorem independent_outputsOf {source : Except FileError String} {rendered : List RenderedFamily}
    (hindependent : Output.Independent tree config.blankOutputs)
    (h : (config.rendering source).result = .ok rendered) :
    Output.Independent tree (outputsOf rendered) :=
  hindependent.congr ((paths_outputsOf h).trans config.paths_blankOutputs.symm)

theorem Undisturbed.refl (config : RunConfig) (tree : FileTree) :
    Undisturbed config [] tree tree :=
  ⟨fun _ _ => rfl, fun _ _ hnone hne => absurd hnone hne⟩

theorem Undisturbed.of_rolledBack (hpaths : outputs.map Output.path = config.targets.map (·.output))
    (hindependent : Output.Independent before outputs)
    (hleft : ∀ location ∈ left, ∃ content, after.item? location = some (.file content))
    (h : Output.RolledBack outputs left before after) :
    Undisturbed config left before after where
  outputs := by
    intro target htarget
    obtain ⟨output, houtput, hpath⟩ : ∃ output ∈ outputs, output.path = target.output :=
      List.mem_map.mp (hpaths ▸ List.mem_map_of_mem htarget)
    have hbefore := hindependent.noLink output houtput _ output.destination_mem
    have hafter : after.NoLinkTo output.path.location := fun above habove target hlink =>
      hbefore above habove target (h.link_before hleft hlink)
    rw [← hpath]
    exact FileTree.toOption_itemAt_congr (hindependent.plain output houtput) hbefore hafter
      (h.destinations output houtput _ List.prefix_rfl)
  created := by
    intro location hkept hnone hne
    have hnot : location ∉ outputs.flatMap Output.siblings := by
      intro hmem
      obtain ⟨output, houtput, hsibling⟩ := List.mem_flatMap.mp hmem
      rcases h.siblings output houtput location hsibling hkept with hgone | heq
      · exact hne hgone
      · exact hne (heq.trans hnone)
    obtain ⟨-, hdirectory, output, houtput, hpre⟩ :=
      (h.others location hnot).resolve_left fun heq => hne (heq.trans hnone)
    obtain ⟨target, htarget, hpath⟩ : ∃ target ∈ config.targets, target.output = output.path :=
      List.mem_map.mp (hpaths ▸ List.mem_map_of_mem houtput)
    exact ⟨hdirectory, target, htarget, hpath ▸ hpre⟩

/-- A run that fails before it writes has not touched the tree. One that fails to write leaves
independent outputs as they were. -/
theorem run_undisturbed
    (hfailed : ((config.run : OnDisk faults _).on tree).1.result = .error error) :
    let after := ((config.run : OnDisk faults _).on tree).2
    ((∀ failure, error ≠ .write failure) → after = tree) ∧
      (Output.SparesUndoing faults → Output.Independent tree config.blankOutputs →
        ∃ left, Undisturbed config left tree after ∧ LeftBy config faults error after left) := by
  intro after
  cases hrender : (config.rendering (tree.readText config.schema)).result with
  | error fault =>
    obtain ⟨-, hsame⟩ : _ ∧ after = tree := on_run_of_error hrender
    rw [hsame]
    constructor
    · intro _
      rfl
    · intro _ _
      exact ⟨[], .refl config tree, .inl rfl⟩
  | ok rendered =>
    obtain ⟨hresult, htree⟩ : _ ∧ after = _ := on_run_of_ok hrender
    obtain ⟨failure, hwrite, rfl⟩ := reportWritten_eq_error_iff.mp (hresult ▸ hfailed)
    constructor
    · intro hother
      exact absurd rfl (hother failure)
    · intro hspares hindependent
      have hrendered := independent_outputsOf hindependent hrender
      have hpaths := paths_outputsOf hrender
      rw [htree]
      rcases Output.on_writeAll faults hrendered with ⟨failure', hfailure, hundone⟩ | ⟨hok, -⟩
      · obtain rfl := Except.error.inj (hfailure.symm.trans hwrite)
        obtain ⟨left, hundone, hleft⟩ := hundone hspares
        have hback := Output.RolledBack.of_undone hrendered hundone
        exact ⟨left, .of_rolledBack hpaths hrendered (fun _ => hleft.exists_file) hback,
          .of_leftover hpaths hleft⟩
      · simp [hok] at hwrite

/-- Two families, written to two files of one directory. -/
def twoFamilies : RunConfig where
  schema := ⟨"schema.json"⟩
  targets := [{ name := "A", output := ⟨"src/a.rs"⟩ }, { name := "B", output := ⟨"src/b.rs"⟩ }]

/-- A schema of two families without variants. -/
def twoFamiliesText : String := "\x7b\"A\": [], \"B\": []\x7d"

/-- The second output cannot be replaced: a directory stands where its backup is to go. -/
def blockedRun : FileTree :=
  ⟨[("schema.json", .file twoFamiliesText.toUTF8), ("src", .directory
    [("a.rs", .file "old".toUTF8), ("b.rs", .file "older".toUTF8),
      ("b.rs.astgen-bak", .directory [])])]⟩

theorem blockedRun_undisturbed :
    Output.SparesUndoing .never ∧ Output.Independent blockedRun twoFamilies.blankOutputs ∧
      ((twoFamilies.run : OnDisk .never _).on blockedRun).1.result =
        .error (.write ⟨⟨"src/b.rs"⟩, .isDirectory⟩) ∧
      Undisturbed twoFamilies [] blockedRun
        ((twoFamilies.run : OnDisk .never _).on blockedRun).2 := by
  have hindependent : Output.Independent blockedRun twoFamilies.blankOutputs := by decide +kernel
  have hfailed : ((twoFamilies.run : OnDisk .never _).on blockedRun).1.result =
      .error (.write ⟨⟨"src/b.rs"⟩, .isDirectory⟩) := by decide +kernel
  obtain ⟨left, hundisturbed, hleft⟩ :=
    (run_undisturbed hfailed).2 Output.sparesUndoing_never hindependent
  obtain rfl := hleft.eq_nil Output.writesWhole_never
  exact ⟨Output.sparesUndoing_never, hindependent, hfailed, hundisturbed⟩

/-- Two families, written to one file under two spellings. -/
def aliasedFamilies : RunConfig where
  schema := ⟨"schema.json"⟩
  targets := [{ name := "A", output := ⟨"a.rs"⟩ }, { name := "B", output := ⟨"./a.rs"⟩ }]

/-- The outputs of a file that is written under two spellings. -/
def aliases (first second : String) : List Output :=
  [⟨⟨"a.rs"⟩, first⟩, ⟨⟨"./a.rs"⟩, second⟩]

/-- The file of both spellings holds a text. -/
def aliasHolding (schema : ByteArray) (text : String) : FileTree :=
  ⟨[("a.rs", .file text.toUTF8), ("schema.json", .file schema)]⟩

/-- The one staged file of both spellings holds another text. -/
def aliasStaged (schema : ByteArray) (text staged : String) : FileTree :=
  ⟨("a.rs.astgen-tmp", .file staged.toUTF8) :: (aliasHolding schema text).entries⟩

/-- The first spelling has been replaced and its backup is there. -/
def aliasReplaced (schema : ByteArray) (old staged : String) : FileTree :=
  ⟨[("a.rs", .file staged.toUTF8), ("a.rs.astgen-bak", .file old.toUTF8),
    ("schema.json", .file schema)]⟩

/-- What the file held is lost to a failure, whatever the texts are that differ from it. -/
theorem writeAll_aliases_error (schema : ByteArray) {old first second : String}
    (hfirst : old ≠ first) (hsecond : old ≠ second) :
    (Output.writeAll (aliases first second) : OnDisk .never WriteReport).on
        (aliasHolding schema old) =
      (⟨.error ⟨⟨"./a.rs"⟩, .notFound⟩, [⟨⟨"a.rs"⟩, .notFound⟩]⟩, aliasHolding schema second) := by
  have hread : (aliasHolding schema old).readText ⟨"a.rs"⟩ = .ok old :=
    FileTree.readText_of_found ["a.rs"] rfl rfl
  have hread' : (aliasStaged schema old first).readText ⟨"./a.rs"⟩ = .ok old :=
    FileTree.readText_of_found ["a.rs"] rfl rfl
  have hstage : (Output.stage ⟨"a.rs"⟩ first : OnDisk .never _).on (aliasHolding schema old) =
      (.ok ⟨⟨"a.rs.astgen-tmp"⟩, ⟨"a.rs"⟩⟩, aliasStaged schema old first) := by
    rfl
  have hstage' : (Output.stage ⟨"./a.rs"⟩ second : OnDisk .never _).on
      (aliasStaged schema old first) =
      (.ok ⟨⟨"./a.rs.astgen-tmp"⟩, ⟨"./a.rs"⟩⟩, aliasStaged schema old second) := by
    rfl
  have hreplace : (Output.replace ⟨⟨"a.rs.astgen-tmp"⟩, ⟨"a.rs"⟩⟩ : OnDisk .never _).on
      (aliasStaged schema old second) =
      (.ok ⟨⟨"a.rs"⟩, some ⟨"a.rs.astgen-bak"⟩⟩, aliasReplaced schema old second) := by
    rfl
  -- The file is moved to the backup of the first spelling and back again.
  have hreplace' : (Output.replace ⟨⟨"./a.rs.astgen-tmp"⟩, ⟨"./a.rs"⟩⟩ : OnDisk .never _).on
      (aliasReplaced schema old second) = (.error .notFound, aliasHolding schema second) := by
    rfl
  have hrollback : (Output.rollback [⟨⟨"a.rs"⟩, some ⟨"a.rs.astgen-bak"⟩⟩] : OnDisk .never _).on
      (aliasHolding schema second) = ([⟨⟨"a.rs"⟩, .notFound⟩], aliasHolding schema second) := by
    rfl
  have hdiscard : (Output.discard [⟨⟨"./a.rs.astgen-tmp"⟩, ⟨"./a.rs"⟩⟩] : OnDisk .never Unit).on
      (aliasHolding schema second) = ((), aliasHolding schema second) := by
    rfl
  simp only [Output.writeAll, aliases, Output.stageAll, Output.commit, on_bind,
    Output.on_isUpToDate_of_ne hread hfirst, Output.on_isUpToDate_of_ne hread' hsecond, hstage,
    hstage', hreplace, hreplace', hrollback, hdiscard, on_pure, Bool.false_eq_true, ↓reduceIte,
    Except.map, List.nil_append, List.cons_append]

/-- What is rendered for the two families. -/
def aliasedTexts : String × String :=
  match (aliasedFamilies.rendering (.ok twoFamiliesText)).result with
  | .ok [first, second] => (first.contents, second.contents)
  | _ => ("", "")

theorem aliasedFamilies_rendering : ∃ first second, "old" ≠ first ∧ "old" ≠ second ∧
    first ≠ second ∧ (aliasedFamilies.rendering (.ok twoFamiliesText)).result =
      .ok [⟨"A", ⟨"a.rs"⟩, first⟩, ⟨"B", ⟨"./a.rs"⟩, second⟩] :=
  ⟨aliasedTexts.1, aliasedTexts.2, by decide +kernel, by decide +kernel, by decide +kernel,
    by decide +kernel⟩

theorem readText_aliasedFamilies_schema (text : String) :
    (aliasHolding twoFamiliesText.toUTF8 text).readText aliasedFamilies.schema =
      .ok twoFamiliesText :=
  FileTree.readText_of_found ["schema.json"] rfl rfl

/-- A valid configuration whose run fails and loses what the output held before. -/
theorem not_undisturbed_of_valid :
    ¬ ∀ (config : RunConfig) (tree : FileTree) (error : Error), config.validate = .ok () →
      ((config.run : OnDisk .never _).on tree).1.result = .error error →
      Undisturbed config [] tree ((config.run : OnDisk .never _).on tree).2 := by
  intro h
  obtain ⟨first, second, hfirst, hsecond, -, hrendering⟩ := aliasedFamilies_rendering
  rw [← readText_aliasedFamilies_schema "old"] at hrendering
  obtain ⟨hresult, hafter⟩ := on_run_of_ok hrendering
  have hwriting := writeAll_aliases_error twoFamiliesText.toUTF8 hfirst hsecond
  change (Output.writeAll (outputsOf [⟨"A", ⟨"a.rs"⟩, first⟩, ⟨"B", ⟨"./a.rs"⟩, second⟩]) :
    OnDisk .never WriteReport).on _ = _ at hwriting
  rw [hwriting] at hresult hafter
  have hundisturbed := h aliasedFamilies _ _ (by decide +kernel) hresult
  rw [hafter] at hundisturbed
  have hsame := hundisturbed.outputs { name := "A", output := ⟨"a.rs"⟩ } (by decide)
  have hbytes : some (Item.file second.toUTF8) = some (.file "old".toUTF8) := hsame
  simp only [Option.some.injEq, Item.file.injEq] at hbytes
  exact hsecond (String.toByteArray_inj.mp hbytes.symm)

end RunConfig

end TreeTypes
