import TreeTypes.Proofs.Output.Staging

/-!
# Replacements

A staged output is put into place by at most two moves. What stands at its locations says all about
it: `Contents.replaced` and `Contents.restored` are what a replacement and its undoing make of them.
When the second move fails after the first, the file that was moved aside is moved back, so that a
replacement that fails leaves the destination and the staged file alone; one that was made can
always be undone.
-/

namespace TreeTypes.Output

open OnDisk FileAccess FileTree

variable {faults : Faults} {output : Output} {tree middle after start : FileTree} {item : Item}
variable {failure : FileError} {old : ByteArray}

/-- What a replacement leaves at the locations of an output. -/
def Contents.replaced (c : Contents) : Contents :=
  ⟨c.staging, none, if c.destination.isSome then c.destination else c.backup⟩

/-- What is left at the locations of an output when a replacement has been undone. -/
def Contents.restored (c : Contents) : Contents :=
  ⟨c.destination, none, if c.destination.isSome then none else c.backup⟩

/-- What is left at the locations of an output when its backup has been removed. -/
def Contents.committed (c : Contents) : Contents :=
  ⟨c.staging, none, if c.destination.isSome then none else c.backup⟩

/-- What is recorded when an output is replaced. -/
def replacement (output : Output) (tree : FileTree) : Replaced :=
  ⟨output.path,
    if (tree.item? output.destination).isSome then some (backupPath output.path) else none⟩

/-- An output whose staged file waits beside a destination that a file can take. -/
structure Waiting (output : Output) (tree : FileTree) : Prop where
  ready : output.Ready tree
  staged : output.HasStaged tree
  destination : output.path.names ≠ [] → FreeOrFile tree output.destination

theorem Ready.destination_fits (h : output.Ready tree) (hnames : output.path.names ≠ []) :
    output.path.Fits :=
  h.fits.of_sibling h.plain (by decide) hnames

theorem Ready.backup_fits (h : output.Ready tree) : (backupPath output.path).Fits :=
  h.fits.sibling_of_sibling h.plain (by decide) (by decide) (by decide) (by decide)

theorem moveAside_of_none (h : output.Ready tree)
    (hnone : output.path.names ≠ [] → tree.item? output.destination = none) :
    (moveAside output.path : OnDisk faults _).on tree = (.ok none, tree) := by
  have hmissing : (tree.itemAt true output.path).toBool = false := by
    by_cases hnames : output.path.names = []
    · simp [itemAt, resolve, Path.unusable?_of_names_eq_nil h.plain hnames, Except.toBool]
    · rw [itemAt_of_none h.plain (h.destination_fits hnames) (hnone hnames) h.directory]
      rfl
  simp [moveAside, on_pathExists, hmissing]

theorem moveAside_of_file (h : output.Ready tree) (hnames : output.path.names ≠ [])
    (hfile : tree.item? output.destination = some (.file old)) :
    (moveAside output.path : OnDisk faults _).on tree =
      match faults.perform (.rename output.path (backupPath output.path)) tree with
      | (.ok (), after) => (.ok (some (backupPath output.path)), after)
      | (.error failure, after) => (.error failure, after) := by
  have hfound : (tree.itemAt true output.path).toBool = true := by
    rw [itemAt_of_found h.plain (h.destination_fits hnames) hfile (by simp)]
    rfl
  simp only [moveAside, on_bind, on_pathExists, hfound, ↓reduceIte, on_rename]
  rcases faults.perform (.rename output.path (backupPath output.path)) tree with ⟨_ | _, after⟩ <;>
    rfl

theorem changesOnly_of_moved {source target : Location} (h : tree.Moved after source target item)
    (hsource : source ∈ output.locations) (htarget : target ∈ output.locations) :
    ChangesOnly [output] tree after := by
  intro location hlocation
  have hnot := hlocation output (by simp)
  have hneTarget : location ≠ target := fun heq => hnot (heq ▸ htarget)
  have hneSource : location ≠ source := fun heq => hnot (heq ▸ hsource)
  rw [h location, if_neg hneTarget, if_neg hneSource]

/-- The staged file can be moved to the destination unless a directory stands there. -/
theorem putInPlace (h : output.Ready tree) (hnames : output.path.names ≠ [])
    (hstaging : tree.item? output.staging = some item) (hleaf : item ≠ .directory)
    (hdestination : tree.item? output.destination ≠ some .directory) :
    ∃ after, tree.rename (stagingPath output.path) output.path = .ok after ∧
      tree.Moved after output.staging output.destination item :=
  rename_of_item (stagingPath_isPlain h.plain) h.plain h.fits (h.destination_fits hnames)
    (staging_ne_destination h.plain).symm hstaging hleaf hdestination h.directory

/-- The file at the destination can be moved aside unless a directory stands at the backup. -/
theorem putAside (h : output.Ready tree) (hnames : output.path.names ≠ [])
    (hfile : tree.item? output.destination = some (.file old))
    (hbackup : tree.item? output.backup ≠ some .directory) :
    ∃ after, tree.rename output.path (backupPath output.path) = .ok after ∧
      tree.Moved after output.destination output.backup (.file old) :=
  rename_of_item h.plain (backupPath_isPlain h.plain) (h.destination_fits hnames) h.backup_fits
    (backup_ne_destination h.plain) hfile (by simp) hbackup
    (by rw [backupPath_folder h.plain]; exact h.directory)

/-- The backup can be moved back to the destination unless a directory stands there. -/
theorem putBack (h : output.Ready tree) (hnames : output.path.names ≠ [])
    (hfile : tree.item? output.backup = some (.file old))
    (hdestination : tree.item? output.destination ≠ some .directory) :
    ∃ after, tree.rename (backupPath output.path) output.path = .ok after ∧
      tree.Moved after output.backup output.destination (.file old) :=
  rename_of_item (backupPath_isPlain h.plain) h.plain h.backup_fits (h.destination_fits hnames)
    (backup_ne_destination h.plain).symm hfile (by simp) hdestination h.directory

theorem contents_of_moved_back (hplain : output.path.IsPlain)
    (h : tree.Moved after output.backup output.destination item) :
    output.contents after = ⟨some item, tree.item? output.staging, none⟩ := by
  simp [contents, h _, staging_ne_destination hplain, (backup_ne_staging hplain).symm,
    backup_ne_destination hplain]

theorem SparesUndoing.perform_putBack (h : SparesUndoing faults) (destination : Path)
    (tree : FileTree) : faults.perform (.rename (backupPath destination) destination) tree =
      tree.attempt (tree.rename (backupPath destination) destination) :=
  faults.perform_of_spared (h.putBack tree destination)

/-- Nothing keeps an output from being put into place. -/
structure Replaceable (output : Output) (tree : FileTree) : Prop where
  names : output.path.names ≠ []
  backup : tree.item? output.destination ≠ none →
    tree.item? output.backup ≠ some .directory

/-- A replacement that an output has gone through. -/
structure IsReplaced (output : Output) (before after : FileTree) : Prop where
  replaceable : output.Replaceable before
  setTo : output.SetTo before after (output.contents before).replaced

/-- What stands at the locations of an output whose replacement has failed. Only what stood at the
backup may be lost. -/
structure StillWaits (output : Output) (before after : FileTree) : Prop where
  destination : after.item? output.destination = before.item? output.destination
  staging : after.item? output.staging = before.item? output.staging
  backup : after.item? output.backup = none ∨
    after.item? output.backup = before.item? output.backup

theorem StillWaits.refl (output : Output) (tree : FileTree) : output.StillWaits tree tree :=
  ⟨rfl, rfl, .inr rfl⟩

/-- A replacement is made, or it fails. It then leaves the destination and the staged file as they
were, if the file can be moved back. -/
def ReplaceEnds (faults : Faults) (output : Output) (tree : FileTree)
    (outcome : Except FileError Replaced × FileTree) : Prop :=
  (outcome.1 = .ok (output.replacement tree) ∧ output.IsReplaced tree outcome.2) ∨
    ((∃ failure, outcome.1 = .error failure) ∧ (SparesUndoing faults →
      output.StillWaits tree outcome.2 ∧ ChangesOnly [output] tree outcome.2))

theorem ReplaceEnds.refused (faults : Faults) (output : Output) (tree : FileTree)
    (failure : FileError) : ReplaceEnds faults output tree (.error failure, tree) :=
  .inr ⟨⟨failure, rfl⟩, fun _ => ⟨.refl output tree, .refl [output] tree⟩⟩

theorem replace_of_none (h : output.Waiting tree) (hnames : output.path.names ≠ [])
    (hnone : tree.item? output.destination = none) :
    ReplaceEnds faults output tree ((replace output.staged : OnDisk faults _).on tree) := by
  obtain ⟨item, hstaging, hleaf⟩ := h.staged
  obtain ⟨placed, hplace, hmoved⟩ := putInPlace h.ready hnames hstaging hleaf (by simp [hnone])
  have haside : (moveAside output.path : OnDisk faults _).on tree = (.ok none, tree) :=
    moveAside_of_none h.ready fun _ => hnone
  simp only [replace, staged, on_bind, haside, on_rename]
  rcases faults.perform_rename_cases (stagingPath output.path) output.path tree with
    ⟨after, hrename, hperform⟩ | ⟨failure, hperform⟩
  · obtain rfl : placed = after := Except.ok.inj (hplace.symm.trans hrename)
    rw [hperform]
    refine .inl ⟨by simp [replacement, hnone], ⟨hnames, absurd hnone⟩, ?_,
      changesOnly_of_moved hmoved output.staging_mem output.destination_mem⟩
    simp [contents, Contents.replaced, hmoved _, hnone, hstaging,
      staging_ne_destination h.ready.plain, backup_ne_destination h.ready.plain,
      backup_ne_staging h.ready.plain]
  · rw [hperform]
    exact .refused faults output tree failure

/-- What is there once the file at the destination has been moved aside. -/
structure IsAside (output : Output) (old : ByteArray) (before after : FileTree) : Prop where
  ready : output.Ready after
  contents : output.contents after =
    ⟨none, before.item? output.staging, some (.file old)⟩
  changesOnly : ChangesOnly [output] before after

theorem isAside_of_moved (h : output.Ready tree)
    (hmoved : tree.Moved after output.destination output.backup (.file old)) :
    output.IsAside old tree after := by
  have hchanges := changesOnly_of_moved hmoved output.destination_mem output.backup_mem
  refine ⟨hchanges.ready h (by simp), ?_, hchanges⟩
  simp [contents, hmoved _, staging_ne_destination h.plain, (backup_ne_destination h.plain).symm,
    (backup_ne_staging h.plain).symm]

/-- When the file at the destination has been moved aside and the staged file cannot be moved to its
place, the file is moved back. -/
theorem replace_of_refused (hspares : SparesUndoing faults) (h : output.Ready tree)
    (hnames : output.path.names ≠ [])
    (hfile : tree.item? output.destination = some (.file old))
    (haside : faults.perform (.rename output.path (backupPath output.path)) tree =
      (.ok (), middle))
    (hmiddle : output.IsAside old tree middle)
    (hrefused : faults.perform (.rename (stagingPath output.path) output.path) middle =
      (.error failure, middle)) :
    ∃ after, (replace output.staged : OnDisk faults _).on tree = (.error failure, after) ∧
      output.SetTo tree after ⟨some (.file old), tree.item? output.staging, none⟩ := by
  have hdestination : middle.item? output.destination = none :=
    destination_of_contents hmiddle.contents
  have hstaging : middle.item? output.staging = tree.item? output.staging :=
    staging_of_contents hmiddle.contents
  have hbackup : middle.item? output.backup = some (.file old) :=
    backup_of_contents hmiddle.contents
  obtain ⟨after, hback, hmoved⟩ := putBack hmiddle.ready hnames hbackup (by simp [hdestination])
  refine ⟨after, ?_, ?_, ?_⟩
  · simp only [replace, staged, on_bind, moveAside_of_file h hnames hfile, haside, on_rename,
      hrefused, hspares.perform_putBack, hback, attempt_ok, on_pure]
  · rw [contents_of_moved_back h.plain hmoved, hstaging]
  · have hchanges := changesOnly_of_moved hmoved output.backup_mem output.destination_mem
    exact (hmiddle.changesOnly.trans hchanges).mono (by simp)

theorem replace_of_file (h : output.Waiting tree) (hnames : output.path.names ≠ [])
    (hfile : tree.item? output.destination = some (.file old))
    (hbackup : tree.item? output.backup ≠ some .directory) :
    ReplaceEnds faults output tree ((replace output.staged : OnDisk faults _).on tree) := by
  obtain ⟨item, hstaging, hleaf⟩ := h.staged
  have hmove : (moveAside output.path : OnDisk faults _).on tree = _ :=
    moveAside_of_file h.ready hnames hfile
  obtain ⟨moved, haside, hmovedAside⟩ := putAside h.ready hnames hfile hbackup
  rcases faults.perform_rename_cases output.path (backupPath output.path) tree with
    ⟨middle, hrename, hperform⟩ | ⟨failure, hperform⟩
  · obtain rfl : moved = middle := Except.ok.inj (haside.symm.trans hrename)
    have hmiddle := isAside_of_moved h.ready hmovedAside
    have hfree : moved.item? output.destination = none :=
      destination_of_contents hmiddle.contents
    obtain ⟨placed, hplace, hmoved⟩ := putInPlace hmiddle.ready hnames
      ((staging_of_contents hmiddle.contents).trans hstaging) hleaf (by simp [hfree])
    rcases faults.perform_rename_cases (stagingPath output.path) output.path moved with
      ⟨after, hrename', hperform'⟩ | ⟨failure, hrefused⟩
    · obtain rfl : placed = after := Except.ok.inj (hplace.symm.trans hrename')
      simp only [replace, staged, on_bind, hmove, hperform, on_rename, hperform']
      refine .inl ⟨by simp [replacement, hfile], ⟨hnames, fun _ => hbackup⟩, ?_, ?_⟩
      · simp [contents, Contents.replaced, hmoved _, hmovedAside _, hfile, hstaging,
          staging_ne_destination h.ready.plain, backup_ne_destination h.ready.plain,
          backup_ne_staging h.ready.plain]
      · have hchanges := changesOnly_of_moved hmoved output.staging_mem output.destination_mem
        exact (hmiddle.changesOnly.trans hchanges).mono (by simp)
    · refine .inr ⟨?_, fun hspares => ?_⟩
      · simp only [replace, staged, on_bind, hmove, hperform, on_rename, hrefused, on_pure]
        exact ⟨failure, rfl⟩
      · obtain ⟨after, hreplace, hset⟩ := replace_of_refused hspares h.ready hnames hfile hperform
          hmiddle hrefused
        rw [hreplace]
        exact ⟨⟨(destination_of_contents hset.contents).trans hfile.symm,
          staging_of_contents hset.contents, .inl (backup_of_contents hset.contents)⟩,
          hset.changesOnly⟩
  · simp only [replace, staged, on_bind, hmove, hperform, on_pure]
    exact .refused faults output tree failure

theorem on_replace (faults : Faults) (h : output.Waiting tree) :
    ReplaceEnds faults output tree ((replace output.staged : OnDisk faults _).on tree) := by
  by_cases hnames : output.path.names = []
  · -- The empty path is no file to move aside, and nothing is moved to it.
    obtain ⟨failure, hrename⟩ :
        ∃ failure, tree.rename (stagingPath output.path) output.path = .error failure :=
      rename_to_unusable (Path.unusable?_of_names_eq_nil h.ready.plain hnames)
    have haside : (moveAside output.path : OnDisk faults _).on tree = (.ok none, tree) :=
      moveAside_of_none h.ready (absurd hnames)
    have hperform : faults.perform (.rename (stagingPath output.path) output.path) tree =
        (.error failure, tree) := Faults.perform_of_error hrename
    simp only [replace, staged, on_bind, haside, on_rename, hperform, on_pure]
    exact .refused faults output tree failure
  · rcases h.destination hnames with hnone | ⟨old, hfile⟩
    · exact replace_of_none h hnames hnone
    · by_cases hbackup : tree.item? output.backup = some .directory
      · obtain ⟨failure, hrename⟩ := rename_to_directory h.ready.plain
          (backupPath_isPlain h.ready.plain) (h.ready.destination_fits hnames)
          h.ready.backup_fits hfile (by simp) hbackup
        have hperform : faults.perform (.rename output.path (backupPath output.path)) tree =
            (.error failure, tree) := Faults.perform_of_error hrename
        have hmove : (moveAside output.path : OnDisk faults _).on tree = _ :=
          moveAside_of_file h.ready hnames hfile
        simp only [replace, staged, on_bind, hmove, hperform, on_pure]
        exact .refused faults output tree failure
      · exact replace_of_file h hnames hfile hbackup

end TreeTypes.Output
