import TreeTypes.Proofs.Output.Separated

/-!
# Staging

Staging an output makes the directories that it lies in and then the staged file beside its
destination. When it fails, nothing but such directories is left of it, unless the writing of the
staged file was cut short: the first bytes of that file stay. The loop over all outputs keeps the
invariant `Staging`: the staged files are there, and away from them the tree is the one before with
new directories. In particular no destination changes, so whether an output is up to date does not
depend on the outputs staged before it.
-/

namespace TreeTypes.Output

-- Items are compared as they are: looking into the tree for them never settles a goal here.
attribute [local irreducible] FileTree.item?

variable {faults : Faults} {output other : Output} {outputs all done rest : List Output}
variable {location : Location} {before tree after : FileTree}

/-- The staged file of an output. -/
def staged (output : Output) : Staged := ⟨stagingPath output.path, output.path⟩

/-- A new directory that one of the outputs lies in. -/
def NewFolder (outputs : List Output) (before after : FileTree) (location : Location) : Prop :=
  before.item? location = none ∧ after.item? location = some .directory ∧
    ∃ output ∈ outputs, location <+: output.path.folder

/-- Away from some locations a tree differs from another in nothing but new directories that
outputs lie in. -/
def GrownAway (outputs : List Output) (touched : List Location) (before after : FileTree) : Prop :=
  ∀ location ∉ touched,
    after.item? location = before.item? location ∨ NewFolder outputs before after location

/-- What stands at a location is a regular file, if there is anything. -/
def FreeOrFile (tree : FileTree) (location : Location) : Prop :=
  tree.item? location = none ∨ ∃ content, tree.item? location = some (.file content)

theorem FreeOrFile.writable (h : FreeOrFile tree location) : tree.Writable location := by
  rcases h with hnone | ⟨content, hfile⟩
  · exact .of_none hnone
  · simp [FileTree.Writable, hfile]

theorem FreeOrFile.congr (h : FreeOrFile tree location)
    (heq : after.item? location = tree.item? location) : FreeOrFile after location := by
  rwa [FreeOrFile, heq]

namespace GrownAway

variable {touched more : List Location}

theorem refl (outputs : List Output) (tree : FileTree) : GrownAway outputs [] tree tree :=
  fun _ _ => .inl rfl

/-- What is no new directory is as it was. -/
theorem item?_eq (h : GrownAway outputs touched before after) (hmem : location ∉ touched)
    (hne : after.item? location ≠ some .directory) :
    after.item? location = before.item? location :=
  (h location hmem).resolve_right fun hnew => hne hnew.2.1

theorem item?_of_ne_none (h : GrownAway outputs touched before after) (hmem : location ∉ touched)
    (hne : before.item? location ≠ none) : after.item? location = before.item? location :=
  (h location hmem).resolve_right fun hnew => hne hnew.1

theorem trans (h : GrownAway outputs touched before tree) (h' : GrownAway outputs more tree after) :
    GrownAway outputs (touched ++ more) before after := by
  intro location hlocation
  rw [List.mem_append, not_or] at hlocation
  rcases h location hlocation.1 with heq | ⟨hnone, hdirectory, hfolder⟩
  · rcases h' location hlocation.2 with heq' | ⟨hnone, hdirectory, hfolder⟩
    · exact .inl (heq'.trans heq)
    · exact .inr ⟨heq ▸ hnone, hdirectory, hfolder⟩
  · refine .inr ⟨hnone, ?_, hfolder⟩
    rw [h'.item?_of_ne_none hlocation.2 (by simp [hdirectory]), hdirectory]

theorem mono {larger : List Output} (h : GrownAway outputs touched before after)
    (hsubset : outputs ⊆ larger) : GrownAway larger touched before after := by
  intro location hlocation
  refine (h location hlocation).imp_right ?_
  rintro ⟨hnone, hdirectory, output, hmem, hpre⟩
  exact ⟨hnone, hdirectory, output, hsubset hmem, hpre⟩

theorem of_grownTo (h : before.GrownTo after output.path.folder) (hmem : output ∈ outputs) :
    GrownAway outputs [] before after := by
  intro location _
  rcases h location with heq | ⟨hnone, hdirectory, hpre⟩
  · exact .inl heq
  · exact .inr ⟨hnone, hdirectory, output, hmem, hpre⟩

end GrownAway

section Stage

open OnDisk FileAccess FileTree

/-- Whether a file holds the text of an output. -/
def upToDate (output : Output) (tree : FileTree) : Bool :=
  match tree.readText output.path with
  | .ok existing => existing == output.text
  | .error _ => false

/-- What is reported for an output of a run that starts on a tree. -/
def status (output : Output) (tree : FileTree) : WriteStatus :=
  if output.upToDate tree then .unchanged else .written

theorem on_isUpToDate (output : Output) (tree : FileTree) :
    (isUpToDate output.path output.text : OnDisk faults Bool).on tree =
      (output.upToDate tree, tree) := by
  simp only [isUpToDate, upToDate, on_bind, on_readText]
  cases tree.readText output.path <;> rfl

theorem upToDate_iff :
    output.upToDate tree = true ↔ tree.readText output.path = .ok output.text := by
  unfold upToDate
  cases tree.readText output.path <;> simp

theorem on_isUpToDate_of_eq {path : Path} {text : String} (h : tree.readText path = .ok text) :
    (isUpToDate path text : OnDisk faults Bool).on tree = (true, tree) := by
  simp [isUpToDate, h]

theorem on_isUpToDate_of_ne {path : Path} {old text : String} (h : tree.readText path = .ok old)
    (hne : old ≠ text) : (isUpToDate path text : OnDisk faults Bool).on tree = (false, tree) := by
  simp [isUpToDate, h, hne]

theorem on_checkDestination (path : Path) (tree : FileTree) :
    ((checkDestination path : OnDisk faults _).on tree).2 = tree := by
  simp only [checkDestination, on_bind, on_entryKind]
  split <;> rfl

theorem freeOrFile_of_checkDestination (hplain : output.path.IsPlain) (hfits : output.path.Fits)
    (hlink : tree.NoLinkTo output.destination)
    (h : ((checkDestination output.path : OnDisk faults _).on tree).1 = .ok ()) :
    FreeOrFile tree output.destination := by
  cases hitem : tree.item? output.destination with
  | none => exact .inl hitem
  | some item =>
    have hfound := itemAt_of_found hplain hfits hitem
      (fun target htarget => hlink _ List.prefix_rfl target (htarget ▸ hitem)) false
    simp only [checkDestination, on_bind, on_entryKind, hfound] at h
    cases item with
    | file content => exact .inr ⟨content, hitem⟩
    | link _ | special _ | directory => simp [Except.map, Item.kind] at h

/-- What stands at the staging location once the text has been written there: a file with the text,
or the special file that stood there before. -/
def stagedItem (output : Output) (before : FileTree) : Item :=
  .written (before.item? output.staging) output.text.toUTF8

theorem stagedItem_of_not_special (h : before.isSpecial output.staging = false) :
    output.stagedItem before = .file output.text.toUTF8 :=
  Item.written_of_not_special (FileTree.isSpecial_eq_false_iff.mp h) _

/-- What staging an output has made of a tree. -/
structure IsStaged (output : Output) (before after : FileTree) : Prop where
  ready : output.Ready after
  staging : after.item? output.staging = some (output.stagedItem before)
  writable : before.Writable output.staging
  destination : output.path.names ≠ [] → FreeOrFile before output.destination
  others : GrownAway [output] [output.staging] before after

/-- The writing of a staged file has been cut short, and the first bytes of the text are there. -/
def CutShort (faults : Faults) (output : Output) (after : FileTree) : Prop :=
  ∃ tree failure written, faults tree (.write (stagingPath output.path) output.text.toUTF8) =
      some ⟨failure, some written⟩ ∧
    after.item? output.staging = some (.file (output.text.toUTF8.extract 0 written))

/-- A disk on which no file keeps a part of what was to be written. -/
def WritesWhole (faults : Faults) : Prop :=
  ∀ tree path content failure written,
    faults tree (.write path content) ≠ some ⟨failure, some written⟩

theorem writesWhole_never : WritesWhole .never := fun _ _ _ _ _ => by simp [Faults.never]

theorem WritesWhole.not_cutShort (h : WritesWhole faults) (output : Output) (after : FileTree) :
    ¬ output.CutShort faults after := by
  rintro ⟨tree, failure, written, hfault, -⟩
  exact h _ _ _ failure written hfault

/-- The locations at which an attempt that failed at a path leaves a file of its own: none, or that
of the staged file whose writing was cut short. -/
def Leftover (faults : Faults) (outputs : List Output) (failed : Path) (after : FileTree)
    (left : List Location) : Prop :=
  left = [] ∨ ∃ output ∈ outputs, output.path = failed ∧ output.CutShort faults after ∧
    left = [output.staging]

theorem Leftover.eq_nil {failed : Path} {left : List Location} (hwhole : WritesWhole faults)
    (h : Leftover faults outputs failed after left) : left = [] := by
  rcases h with rfl | ⟨output, -, -, hcut, -⟩
  · rfl
  · exact absurd hcut (hwhole.not_cutShort output after)

theorem Leftover.exists_file {failed : Path} {left : List Location}
    (h : Leftover faults outputs failed after left) (hmem : location ∈ left) :
    ∃ content, after.item? location = some (.file content) := by
  rcases h with rfl | ⟨output, -, -, ⟨-, -, written, -, hfile⟩, rfl⟩
  · simp at hmem
  · obtain rfl := List.mem_singleton.mp hmem
    exact ⟨output.text.toUTF8.extract 0 written, hfile⟩

theorem Leftover.mono {failed : Path} {left : List Location} {larger : List Output}
    (h : Leftover faults outputs failed after left) (hsubset : outputs ⊆ larger) :
    Leftover faults larger failed after left := by
  refine h.imp_right ?_
  rintro ⟨output, hmem, hleft⟩
  exact ⟨output, hsubset hmem, hleft⟩

/-- What writing to the staging location makes of a tree in which the directories are there. -/
structure IsWritten (output : Output) (before after : FileTree) (content : ByteArray) : Prop where
  ready : output.Ready after
  staging : after.item? output.staging =
    some (.written (before.item? output.staging) content)
  writable : before.Writable output.staging
  others : GrownAway [output] [output.staging] before after

theorem IsWritten.of_writeFile {middle : FileTree} {content : ByteArray}
    (hplain : output.path.IsPlain) (hlink : tree.NoLinkTo output.staging)
    (hgrown : tree.GrownTo middle output.path.folder)
    (hwrite : middle.writeFile (stagingPath output.path) content = .ok after) :
    output.IsWritten tree after content := by
  have hstagingLink : middle.NoLinkTo (stagingPath output.path).location := hgrown.noLinkTo hlink
  obtain ⟨hfits, hdirectory, hwritable, hchanged⟩ :=
    writeFile_eq_ok (stagingPath_isPlain hplain) hstagingLink hwrite
  have hwritable : middle.Writable output.staging := hwritable
  have hchanged : middle.ChangedTo after output.staging _ := hchanged
  rw [stagingPath_folder hplain] at hdirectory
  have haway : GrownAway [output] [] tree middle := .of_grownTo hgrown (by simp)
  have hsame : middle.item? output.staging = tree.item? output.staging :=
    haway.item?_eq (by simp) hwritable.1
  have hwritten : GrownAway [output] [output.staging] middle after := fun location hlocation =>
    .inl (hchanged.other (by simpa using hlocation))
  have hne : output.path.folder ≠ output.staging := fun heq =>
    not_mem_locations_of_prefix_folder hplain List.prefix_rfl (heq ▸ output.staging_mem)
  exact {
    ready := ⟨hplain, hfits, (hchanged.other hne).trans hdirectory⟩
    staging := hsame ▸ hchanged.self
    writable := hwritable.congr hsame.symm
    others := haway.trans hwritten }

theorem IsWritten.isStaged (h : output.IsWritten before after output.text.toUTF8)
    (hdestination : output.path.names ≠ [] → FreeOrFile before output.destination) :
    output.IsStaged before after :=
  ⟨h.ready, h.staging, h.writable, hdestination, h.others⟩

/-- A writing that was cut short leaves the first bytes, but nothing where a special file stands. -/
theorem IsWritten.leftover {failure : FileError} {written : Nat}
    (h : output.IsWritten before after (output.text.toUTF8.extract 0 written))
    (hfault : faults tree (.write (stagingPath output.path) output.text.toUTF8) =
      some ⟨failure, some written⟩) :
    ∃ left, GrownAway [output] left before after ∧
      Leftover faults [output] output.path after left := by
  by_cases hspecial : ∃ kept, before.item? output.staging = some (.special kept)
  · obtain ⟨kept, hkept⟩ := hspecial
    refine ⟨[], fun location _ => ?_, .inl rfl⟩
    by_cases heq : location = output.staging
    · left
      rw [heq, h.staging, hkept, Item.written]
    · exact h.others location (by simpa using heq)
  · have hstaging := h.staging
    rw [Item.written_of_not_special (not_exists.mp hspecial)] at hstaging
    exact ⟨[output.staging], h.others, .inr ⟨output, List.mem_singleton_self output, rfl,
      ⟨tree, failure, written, hfault, hstaging⟩, rfl⟩⟩

/-- Staging an output gives its staged file. When it fails it leaves no file, but for one whose
writing was cut short. -/
theorem on_stage (faults : Faults) (hplain : output.path.IsPlain)
    (hlink : ∀ location ∈ output.locations, tree.NoLinkTo location) :
    let outcome := (stage output.path output.text : OnDisk faults _).on tree
    (outcome.1 = .ok output.staged ∧ output.IsStaged tree outcome.2) ∨
      ((∃ failure, outcome.1 = .error failure) ∧
        ∃ left, GrownAway [output] left tree outcome.2 ∧
          Leftover faults [output] output.path outcome.2 left) := by
  have hfolder : tree.NoLinkTo output.path.folder :=
    (hlink _ output.destination_mem).of_above output.path.folder_prefix_location
  have hgrown : tree.GrownTo ((ensureParent output.path : OnDisk faults _).on tree).2
      output.path.folder := ensureParent_grownTo hplain hfolder
  have haway : GrownAway [output] [] tree
      ((ensureParent output.path : OnDisk faults _).on tree).2 := .of_grownTo hgrown (by simp)
  have hstaging : tree.NoLinkTo output.staging := hlink _ output.staging_mem
  simp only [stage, on_bind]
  split
  case h_1 failure hcheck =>
    rw [on_checkDestination]
    exact .inr ⟨⟨failure, rfl⟩, [], .refl [output] tree, .inl rfl⟩
  case h_2 hcheck =>
    rw [on_checkDestination]
    simp only [on_bind]
    split
    case h_1 failure hparent => exact .inr ⟨⟨failure, rfl⟩, [], haway, .inl rfl⟩
    case h_2 =>
      simp only [on_bind, on_writeText]
      rcases faults.perform_write_cases (stagingPath output.path) output.text.toUTF8
          ((ensureParent output.path : OnDisk faults _).on tree).2 with
        ⟨after, hwrite, hperform⟩ | ⟨failure, hperform⟩ |
        ⟨failure, written, after, hfault, hwrite, hperform⟩
      · have hwritten : output.IsWritten tree after output.text.toUTF8 :=
          .of_writeFile hplain hstaging hgrown hwrite
        rw [hperform]
        exact .inl ⟨rfl, hwritten.isStaged fun hnames => freeOrFile_of_checkDestination hplain
          (hwritten.ready.fits.of_sibling hplain (by decide) hnames)
          (hlink _ output.destination_mem) hcheck⟩
      · rw [hperform]
        exact .inr ⟨⟨failure, rfl⟩, [], haway, .inl rfl⟩
      · have hwritten : output.IsWritten tree after _ :=
          .of_writeFile hplain hstaging hgrown hwrite
        rw [hperform]
        exact .inr ⟨⟨failure, rfl⟩, hwritten.leftover hfault⟩

end Stage

/-- Staging has made the staged files of some outputs out of a tree. -/
structure Staging (all done : List Output) (before after : FileTree) : Prop where
  ready : ∀ output ∈ done, output.Ready after
  staging : ∀ output ∈ done, after.item? output.staging = some (output.stagedItem before)
  writable : ∀ output ∈ done, before.Writable output.staging
  destination : ∀ output ∈ done, output.path.names ≠ [] → FreeOrFile before output.destination
  others : GrownAway all (done.map Output.staging) before after

theorem Separated.staging_not_mem (h : ∀ other ∈ done, Separated output other)
    (hmem : location ∈ output.locations) : location ∉ done.map Output.staging := by
  intro hstaging
  obtain ⟨other, hother, rfl⟩ := List.mem_map.mp hstaging
  exact (h other hother).not_mem_of_above hmem List.prefix_rfl other.staging_mem

/-- No output lies below a location of an output. -/
theorem Independent.not_prefix_folder (h : Independent before all) (houtput : output ∈ all)
    (hmem : location ∈ output.locations) (hother : other ∈ all) :
    ¬ location <+: other.path.folder := by
  intro hpre
  by_cases heq : output = other
  · subst heq
    exact not_mem_locations_of_prefix_folder (h.plain output hother) hpre hmem
  · exact (h.separated_of_ne houtput hother heq).symm.folder_not_mem hpre hmem

/-- No directory is made where an output has its files. -/
theorem Independent.not_newFolder (h : Independent before all) (houtput : output ∈ all)
    (hmem : location ∈ output.locations) (tree : FileTree) :
    ¬ NewFolder all tree after location := by
  rintro ⟨-, -, other, hother, hpre⟩
  exact h.not_prefix_folder houtput hmem hother hpre

/-- A staged file stands at no other location of an output. -/
theorem Independent.not_mem_staging (h : Independent before all) (houtput : output ∈ all)
    (hdone : ∀ o ∈ done, o ∈ all) (hmem : location ∈ output.locations)
    (hne : output ∈ done → location ≠ output.staging) : location ∉ done.map Output.staging := by
  intro hstaging
  obtain ⟨other, hother, rfl⟩ := List.mem_map.mp hstaging
  by_cases heq : output = other
  · subst heq
    exact hne hother rfl
  · exact (h.separated_of_ne houtput (hdone other hother) heq).not_mem_of_above hmem
      List.prefix_rfl other.staging_mem

namespace Staging

theorem nil (all : List Output) (tree : FileTree) : Staging all [] tree tree :=
  ⟨by simp, by simp, by simp, by simp, .refl all tree⟩

/-- What has been staged stays while the tree grows elsewhere. -/
theorem kept {touched : List Location} (h : Staging all done before tree)
    (hgrown : GrownAway all touched tree after) (houtput : output ∈ done)
    (hfolder : output.path.folder ∉ touched) (hstaging : output.staging ∉ touched) :
    output.Ready after ∧ after.item? output.staging = some (output.stagedItem before) := by
  have hready := h.ready output houtput
  have hstaged := h.staging output houtput
  refine ⟨⟨hready.plain, hready.fits, ?_⟩, ?_⟩
  · rw [hgrown.item?_of_ne_none hfolder (by simp [hready.directory]), hready.directory]
  · rw [hgrown.item?_of_ne_none hstaging (by simp [hstaged]), hstaged]

/-- What has been staged stays while another output is being staged. -/
theorem kept_of_separated {touched : List Location} (h : Staging all done before tree)
    (hgrown : GrownAway all touched tree after)
    (htouched : ∀ location ∈ touched, location ∈ output.locations)
    (hseparated : ∀ other ∈ done, Separated output other) :
    ∀ other ∈ done, other.Ready after ∧
      after.item? other.staging = some (other.stagedItem before) := by
  intro other hother
  have hapart := (hseparated other hother).symm
  apply h.kept hgrown hother
  · intro hfolder
    exact hapart.folder_not_mem List.prefix_rfl (htouched _ hfolder)
  · intro hstaging
    exact hapart.not_mem_of_above other.staging_mem List.prefix_rfl (htouched _ hstaging)

/-- Staging one more output keeps the invariant. -/
theorem append (h : Staging all done before tree) (hstaged : output.IsStaged tree after)
    (hmem : output ∈ all) (hseparated : ∀ other ∈ done, Separated output other) :
    Staging all (done ++ [output]) before after := by
  have hgrown : GrownAway all [output.staging] tree after := hstaged.others.mono (by simpa)
  have hkept := h.kept_of_separated hgrown (by simpa using output.staging_mem) hseparated
  -- What the output finds now was there before, for it is at none of the staged files.
  have hsame : ∀ location ∈ output.locations, tree.Writable location →
      tree.item? location = before.item? location := fun location hlocation hwritable =>
    h.others.item?_eq (Separated.staging_not_mem hseparated hlocation) hwritable.1
  have hstagingSame := hsame _ output.staging_mem hstaged.writable
  constructor
  case ready =>
    simp only [List.forall_mem_append, List.forall_mem_singleton]
    exact ⟨fun other hother => (hkept other hother).1, hstaged.ready⟩
  case staging =>
    simp only [List.forall_mem_append, List.forall_mem_singleton]
    refine ⟨fun other hother => (hkept other hother).2, ?_⟩
    rw [hstaged.staging, stagedItem, stagedItem, hstagingSame]
  case writable =>
    simp only [List.forall_mem_append, List.forall_mem_singleton]
    exact ⟨h.writable, hstaged.writable.congr hstagingSame.symm⟩
  case destination =>
    simp only [List.forall_mem_append, List.forall_mem_singleton]
    refine ⟨h.destination, fun hnames => ?_⟩
    have hfree := hstaged.destination hnames
    exact hfree.congr (hsame _ output.destination_mem hfree.writable).symm
  case others =>
    simpa using h.others.trans hgrown

theorem noLinkTo (h : Staging all done before after) (hlink : before.NoLinkTo location) :
    after.NoLinkTo location := by
  intro above habove target htarget
  by_cases hmem : above ∈ done.map Output.staging
  · obtain ⟨output, houtput, rfl⟩ := List.mem_map.mp hmem
    rw [h.staging output houtput] at htarget
    exact Item.written_ne_link _ _ target (Option.some.inj htarget)
  · rw [h.others.item?_eq hmem (by simp [htarget])] at htarget
    exact hlink above habove target htarget

/-- Of the locations of an output only that of its staged file changes. -/
theorem item?_eq (h : Staging all done before after) (hall : Independent before all)
    (hdone : ∀ o ∈ done, o ∈ all) (houtput : output ∈ all) (hmem : location ∈ output.locations)
    (hne : output ∈ done → location ≠ output.staging) :
    after.item? location = before.item? location :=
  (h.others _ (hall.not_mem_staging houtput hdone hmem hne)).resolve_right
    (hall.not_newFolder houtput hmem before)

theorem item?_destination (h : Staging all done before after) (hall : Independent before all)
    (hdone : ∀ o ∈ done, o ∈ all) (houtput : output ∈ all) :
    after.item? output.destination = before.item? output.destination :=
  h.item?_eq hall hdone houtput output.destination_mem
    fun _ => (staging_ne_destination (hall.plain output houtput)).symm

/-- Whether an output is up to date does not depend on what has been staged. -/
theorem upToDate_eq (h : Staging all done before after) (hall : Independent before all)
    (hdone : ∀ o ∈ done, o ∈ all) (hmem : output ∈ all) :
    output.upToDate after = output.upToDate before := by
  have hplain := hall.plain output hmem
  have hlink := hall.noLink output hmem _ output.destination_mem
  have hitem : after.item? output.path.location = before.item? output.path.location :=
    h.item?_destination hall hdone hmem
  rw [Bool.eq_iff_iff, upToDate_iff, upToDate_iff,
    FileTree.readText_eq_ok_iff hplain (h.noLinkTo hlink),
    FileTree.readText_eq_ok_iff hplain hlink, FileTree.contentAt?, FileTree.contentAt?, hitem]

end Staging

section StageAll

open OnDisk FileAccess FileTree

/-- A disk that lets everything be undone: faults never keep a file from being removed, or a backup
from being moved back. -/
structure SparesUndoing (faults : Faults) : Prop where
  remove : ∀ tree path, faults tree (.remove path) = none
  putBack : ∀ tree destination, faults tree (.rename (backupPath destination) destination) = none

theorem sparesUndoing_never : SparesUndoing .never := ⟨fun _ _ => rfl, fun _ _ => rfl⟩

theorem SparesUndoing.perform_remove (h : SparesUndoing faults) (path : Path) (tree : FileTree) :
    faults.perform (.remove path) tree = tree.attempt (tree.removeFile path) :=
  faults.perform_of_spared (h.remove tree path)

/-- A tree is another one again, but for new directories that outputs lie in, for what may have been
lost at their siblings and for what is left there. -/
def Undone (outputs : List Output) (left : List Location) (before after : FileTree) : Prop :=
  ∀ location, after.item? location = before.item? location ∨
    NewFolder outputs before after location ∨
    location ∈ outputs.flatMap siblings ∧ (after.item? location = none ∨ location ∈ left)

/-- Something stands at the staging location that can be moved and removed. -/
def HasStaged (output : Output) (tree : FileTree) : Prop :=
  ∃ item, tree.item? output.staging = some item ∧ item ≠ .directory

theorem discard_eq_foldl (hspares : SparesUndoing faults) (outputs : List Output)
    (tree : FileTree) : ((discard (outputs.map staged) : OnDisk faults Unit).on tree).2 =
      outputs.foldl (fun tree o => (tree.attempt (tree.removeFile (stagingPath o.path))).2)
        tree := by
  induction outputs generalizing tree with
  | nil => rfl
  | cons output rest ih =>
    simp only [List.map_cons, discard, on_bind, on_removeFile, hspares.perform_remove, ih]
    rfl

/-- Staged files are removed, and nothing else is. -/
theorem on_discard (hspares : SparesUndoing faults) (hseparated : outputs.Pairwise Separated)
    (hready : ∀ o ∈ outputs, o.Ready tree) (hstaged : ∀ o ∈ outputs, o.HasStaged tree) :
    let after := ((discard (outputs.map staged) : OnDisk faults Unit).on tree).2
    (∀ o ∈ outputs, o.contents after = { o.contents tree with staging := none }) ∧
      ChangesOnly outputs tree after := by
  rw [discard_eq_foldl hspares]
  refine foldl_contents ?_ hseparated hready (fun _ _ => rfl)
  intro o ho current hcurrent hcontents
  simp only [contents, Contents.mk.injEq] at hcontents
  obtain ⟨hdestination, hstaging, hbackup⟩ := hcontents
  obtain ⟨item, hitem, hleaf⟩ := hstaged o ho
  obtain ⟨after, hremove, hchanged⟩ := removeFile_of_item
    (stagingPath_isPlain hcurrent.plain) hcurrent.fits (hstaging.trans hitem) hleaf
  have hchanged : current.ChangedTo after o.staging none := hchanged
  rw [hremove, attempt_ok]
  constructor
  · simp [contents, hchanged.self, hchanged.other (staging_ne_destination hcurrent.plain).symm,
      hchanged.other (backup_ne_staging hcurrent.plain), hdestination, hbackup]
  · exact changesOnly_of_changed hchanged o.staging_mem

theorem Leftover.subset {failed : Path} {left : List Location}
    (h : Leftover faults [output] failed after left) :
    ∀ location ∈ left, location = output.staging := by
  rcases h with rfl | ⟨other, hother, -, -, rfl⟩
  · simp
  · simp [List.mem_singleton.mp hother]

theorem Leftover.congr {failed : Path} {left : List Location} {undone : FileTree}
    (h : Leftover faults [output] failed after left)
    (heq : undone.item? output.staging = after.item? output.staging) :
    Leftover faults [output] failed undone left := by
  refine h.imp_right ?_
  rintro ⟨other, hother, hfailed, ⟨tree, failure, written, hfault, hfile⟩, hleft⟩
  obtain rfl := List.mem_singleton.mp hother
  exact ⟨other, hother, hfailed, ⟨tree, failure, written, hfault, heq.trans hfile⟩, hleft⟩

/-- When the staging of an output has failed and the staged files of the others have been removed,
nothing is left of staging but new directories and what that output leaves. -/
theorem Staging.on_discard {failed : Path} {left : List Location} (hspares : SparesUndoing faults)
    (h : Staging all done before tree) (hdone : ∀ o ∈ done, o ∈ all)
    (hseparated : done.Pairwise Separated) (houtput : output ∈ all)
    (hapart : ∀ other ∈ done, Separated output other) (hgrown : GrownAway [output] left tree after)
    (hleft : Leftover faults [output] failed after left) :
    let undone := ((discard (done.map staged) : OnDisk faults Unit).on after).2
    Undone all left before undone ∧ Leftover faults all failed undone left := by
  have hkept := h.kept_of_separated (hgrown.mono (by simpa using houtput))
    (fun location hlocation => hleft.subset location hlocation ▸ output.staging_mem) hapart
  obtain ⟨hcontents, hchanges⟩ := Output.on_discard hspares hseparated
    (fun o ho => (hkept o ho).1)
    (fun o ho => ⟨_, (hkept o ho).2, Item.written_ne_directory _ _⟩)
  have hothers := h.others.trans (hgrown.mono (by simpa using houtput))
  intro undone
  constructor
  · intro location
    by_cases hstaging : location ∈ done.map Output.staging
    · obtain ⟨o, ho, rfl⟩ := List.mem_map.mp hstaging
      refine .inr (.inr ⟨?_, .inl (staging_of_contents (hcontents o ho))⟩)
      exact List.mem_flatMap.mpr ⟨o, hdone o ho, mem_siblings.mpr (.inl rfl)⟩
    · by_cases hmem : location ∈ left
      · refine .inr (.inr ⟨?_, .inr hmem⟩)
        exact List.mem_flatMap.mpr
          ⟨output, houtput, mem_siblings.mpr (.inl (hleft.subset location hmem))⟩
      · have hsame : undone.item? location = after.item? location := by
          by_cases hlocation : ∃ o ∈ done, location ∈ o.locations
          · obtain ⟨o, ho, hlocation⟩ := hlocation
            rcases mem_locations.mp hlocation with rfl | rfl | rfl
            · exact destination_of_contents (hcontents o ho)
            · exact absurd (List.mem_map_of_mem ho) hstaging
            · exact backup_of_contents (hcontents o ho)
          · exact hchanges location fun o ho hlocation' => hlocation ⟨o, ho, hlocation'⟩
        simpa only [NewFolder, hsame, or_assoc] using
          Or.inl (hothers location (by simp [hstaging, hmem]))
  · refine (hleft.congr ?_).mono (by simpa using houtput)
    exact staging_of_contents (hchanges.contents_eq hapart)

/-- The outputs whose files do not hold their texts. -/
def stale (tree : FileTree) (outputs : List Output) : List Output :=
  outputs.filter fun output => !output.upToDate tree

theorem stale_subset : ∀ o ∈ stale before outputs, o ∈ outputs :=
  fun _ ho => (List.mem_filter.mp ho).1

theorem mem_stale_of_not_upToDate (houtput : output ∈ outputs)
    (h : output.upToDate before ≠ true) : output ∈ stale before outputs :=
  List.mem_filter.mpr ⟨houtput, by simpa using h⟩

theorem not_mem_stale_of_upToDate (h : output.upToDate before = true) :
    output ∉ stale before outputs := by
  simp [stale, h]

/-- The loop stages the outputs that were not up to date at its beginning, or fails. It then leaves
no staged file but one whose writing was cut short, if everything can be undone. -/
theorem on_stageAll (faults : Faults) (hall : Independent before all)
    (hmem : ∀ o ∈ done ++ rest, o ∈ all) (hseparated : (done ++ rest).Pairwise Separated)
    (h : Staging all done before tree) :
    let outcome := (stageAll (done.map staged) rest : OnDisk faults _).on tree
    (outcome.1 = .ok ((done ++ stale before rest).map staged,
        rest.map fun o => (o.path, o.status before)) ∧
      Staging all (done ++ stale before rest) before outcome.2) ∨
    ∃ failure, outcome.1 = .error failure ∧ (SparesUndoing faults →
      ∃ left, Undone all left before outcome.2 ∧
        Leftover faults all failure.path outcome.2 left) := by
  induction rest generalizing done tree with
  | nil => exact .inl ⟨by simp [stageAll, stale], by simpa [stageAll, stale] using h⟩
  | cons output rest ih =>
    have houtput : output ∈ all := hmem output (by simp)
    have hdone : ∀ o ∈ done, o ∈ all := fun o ho => hmem o (List.mem_append_left _ ho)
    have hapart : ∀ o ∈ done, Separated output o := fun o ho =>
      ((List.pairwise_append.mp hseparated).2.2 o ho output (by simp)).symm
    have hstable := h.upToDate_eq hall hdone houtput
    simp only [stageAll, on_bind, on_isUpToDate, hstable]
    cases hfresh : output.upToDate before with
    | true =>
      have hsublist : (done ++ rest).Sublist (done ++ output :: rest) :=
        (List.sublist_cons_self output rest).append_left done
      have hstatus : output.status before = .unchanged := by simp [status, hfresh]
      have hstale : stale before (output :: rest) = stale before rest := by simp [stale, hfresh]
      simp only [↓reduceIte, on_bind, on_pure, hstale, List.map_cons, hstatus]
      rcases ih (fun o ho => hmem o (hsublist.subset ho)) (hseparated.sublist hsublist) h with
        ⟨hok, hstaging⟩ | ⟨failure, hfailure, hundone⟩
      · exact .inl ⟨by rw [hok]; rfl, hstaging⟩
      · exact .inr ⟨failure, by rw [hfailure]; rfl, hundone⟩
    | false =>
      have hstatus : output.status before = .written := by simp [status, hfresh]
      have hstale : stale before (output :: rest) = output :: stale before rest := by
        simp [stale, hfresh]
      have hlink : ∀ location ∈ output.locations, tree.NoLinkTo location :=
        fun location hlocation => h.noLinkTo (hall.noLink output houtput location hlocation)
      simp only [Bool.false_eq_true, ↓reduceIte, on_bind, hstale, List.map_cons, hstatus]
      rcases on_stage faults (hall.plain output houtput) hlink with
        ⟨hok, hstaged⟩ | ⟨⟨failure, hfailure⟩, left, hgrown, hleft⟩
      · have happend : done ++ output :: rest = (done ++ [output]) ++ rest := by simp
        have hnext := h.append hstaged houtput hapart
        rw [happend] at hmem hseparated
        simp only [hok, on_bind, on_pure]
        rcases ih hmem hseparated hnext with
          ⟨hok, hstaging⟩ | ⟨failure, hfailure, hundone⟩
        · rw [List.map_append, List.map_singleton] at hok
          exact .inl ⟨by rw [hok]; simp [Except.map], by simpa using hstaging⟩
        · rw [List.map_append, List.map_singleton] at hfailure
          exact .inr ⟨failure, by rw [hfailure]; rfl, by simpa using hundone⟩
      · simp only [hfailure, on_bind, on_pure]
        exact .inr ⟨_, rfl, fun hspares => ⟨left, h.on_discard hspares hdone
          (List.pairwise_append.mp hseparated).1 houtput hapart hgrown hleft⟩⟩

end StageAll

end TreeTypes.Output
