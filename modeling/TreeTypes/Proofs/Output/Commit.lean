import TreeTypes.Proofs.Output.Replacement

/-!
# Committing staged outputs

The commit replaces the outputs one after the other. Its invariant `Replacing` says which of the
outputs have gone through their replacement and that the others still wait. When a replacement
fails, undoing those that were made, the latest first, and removing the staged files that are left
gives every destination back; when none fails, the backups go.
-/

namespace TreeTypes.Output

-- Items are compared as they are: looking into the tree for them never settles a goal here.
attribute [local irreducible] FileTree.item?

open OnDisk FileAccess FileTree

variable {faults : Faults} {output : Output} {outputs done rest : List Output}
variable {start tree after : FileTree}

theorem Waiting.congr (h : output.Waiting start) (hready : output.Ready tree)
    (heq : output.contents tree = output.contents start) : output.Waiting tree := by
  have hdestination : tree.item? output.destination = start.item? output.destination :=
    destination_of_contents heq
  have hstaging : tree.item? output.staging = start.item? output.staging :=
    staging_of_contents heq
  obtain ⟨item, hitem, hleaf⟩ := h.staged
  exact ⟨hready, ⟨item, hstaging.trans hitem, hleaf⟩,
    fun hnames => (h.destination hnames).congr hdestination⟩

theorem replacement_congr (heq : output.contents tree = output.contents start) :
    output.replacement tree = output.replacement start := by
  have hdestination : tree.item? output.destination = start.item? output.destination :=
    destination_of_contents heq
  simp only [replacement, hdestination]

theorem Replaceable.congr (h : output.Replaceable tree)
    (heq : output.contents tree = output.contents start) : output.Replaceable start := by
  have hdestination : tree.item? output.destination = start.item? output.destination :=
    destination_of_contents heq
  have hbackup : tree.item? output.backup = start.item? output.backup := backup_of_contents heq
  exact ⟨h.names, hdestination ▸ hbackup ▸ h.backup⟩

/-- A replacement can be undone. -/
theorem setTo_restore (hspares : SparesUndoing faults) (h : output.Waiting start)
    (hnames : output.path.names ≠ []) (hready : output.Ready tree)
    (hreplaced : output.contents tree = (output.contents start).replaced) :
    output.SetTo tree ((restore (output.replacement start) : OnDisk faults _).on tree).2
      (output.contents start).restored := by
  have hplain := hready.plain
  obtain ⟨item, hitem, hleaf⟩ := h.staged
  simp only [contents, Contents.replaced, hitem, Contents.mk.injEq] at hreplaced
  obtain ⟨hdestination, hstaging, hbackup⟩ := hreplaced
  rcases h.destination hnames with hnone | ⟨old, hfile⟩
  · obtain ⟨after, hremove, hchanged⟩ :=
      removeFile_of_item hplain (hready.destination_fits hnames) hdestination hleaf
    have hchanged : tree.ChangedTo after output.destination none := hchanged
    have hrestore :
        ((restore (output.replacement start) : OnDisk faults _).on tree).2 = after := by
      simp [restore, replacement, hnone, hspares.perform_remove, hremove]
    rw [hrestore]
    constructor
    · simp [contents, Contents.restored, hnone, hchanged.self, hstaging, hbackup,
        hchanged.other (staging_ne_destination hplain),
        hchanged.other (backup_ne_destination hplain)]
    · exact changesOnly_of_changed hchanged output.destination_mem
  · have hbackup : tree.item? output.backup = some (.file old) := by simpa [hfile] using hbackup
    obtain ⟨after, hback, hmoved⟩ :=
      putBack hready hnames hbackup (by simpa [hdestination] using hleaf)
    have hrestore :
        ((restore (output.replacement start) : OnDisk faults _).on tree).2 = after := by
      simp [restore, replacement, hfile, hspares.perform_putBack, hback]
    rw [hrestore]
    refine ⟨?_, changesOnly_of_moved hmoved output.backup_mem output.destination_mem⟩
    rw [contents_of_moved_back hplain hmoved]
    simp [contents, Contents.restored, hfile, hstaging]

/-- The disk can keep the backup of an output from being removed. -/
def KeepsBackup (faults : Faults) (output : Output) : Prop :=
  ∃ tree fault, faults tree (.remove (backupPath output.path)) = some fault

theorem SparesUndoing.not_keepsBackup (h : SparesUndoing faults) (output : Output) :
    ¬ output.KeepsBackup faults := by
  rintro ⟨tree, fault, hfault⟩
  simp [h.remove] at hfault

/-- What a commit leaves at the locations of an output. The backup is gone unless the disk has kept
it. -/
def Contents.IsCommitted (faults : Faults) (output : Output) (start : FileTree) (c : Contents) :
    Prop :=
  c = (output.contents start).committed ∨
    c = (output.contents start).replaced ∧ output.KeepsBackup faults

namespace Contents.IsCommitted

theorem destination (h : (output.contents after).IsCommitted faults output start) :
    after.item? output.destination = start.item? output.staging := by
  rcases h with h | ⟨h, -⟩ <;> exact destination_of_contents h

theorem staging (h : (output.contents after).IsCommitted faults output start) :
    after.item? output.staging = none := by
  rcases h with h | ⟨h, -⟩ <;> exact staging_of_contents h

/-- What stands at the backup is gone, has been left alone or is what the disk has kept. -/
theorem backup (h : (output.contents after).IsCommitted faults output start) :
    (start.item? output.destination ≠ none ∧ after.item? output.backup = none) ∨
    (start.item? output.destination = none ∧
      after.item? output.backup = start.item? output.backup) ∨
    (start.item? output.destination ≠ none ∧ output.KeepsBackup faults ∧
      after.item? output.backup = start.item? output.destination) := by
  by_cases hnone : start.item? output.destination = none
  · refine .inr (.inl ⟨hnone, ?_⟩)
    rcases h with h | ⟨h, -⟩ <;>
      exact (backup_of_contents h).trans (by simp [committed, replaced, contents, hnone])
  · have hsome : (output.contents start).destination.isSome = true :=
      Option.isSome_iff_ne_none.mpr hnone
    rcases h with h | ⟨h, hkeeps⟩
    · exact .inl ⟨hnone, (backup_of_contents h).trans (if_pos hsome)⟩
    · exact .inr (.inr ⟨hnone, hkeeps, (backup_of_contents h).trans (if_pos hsome)⟩)

end Contents.IsCommitted

/-- Remove the backup of a replacement, if there is one. -/
def dropBackup (faults : Faults) (done : Replaced) (tree : FileTree) : FileTree :=
  match done.backup with
  | some backup => (faults.perform (.remove backup) tree).2
  | none => tree

theorem isCommitted_dropBackup (h : output.Waiting start) (hnames : output.path.names ≠ [])
    (hready : output.Ready tree)
    (hreplaced : output.contents tree = (output.contents start).replaced) :
    let after := dropBackup faults (output.replacement start) tree
    (output.contents after).IsCommitted faults output start ∧ ChangesOnly [output] tree after := by
  have hplain := hready.plain
  intro after
  rcases h.destination hnames with hnone | ⟨old, hfile⟩
  · have hdrop : after = tree := by
      simp [after, dropBackup, replacement, hnone]
    rw [hdrop]
    refine ⟨.inl ?_, .refl [output] tree⟩
    rw [hreplaced]
    simp [contents, Contents.replaced, Contents.committed, hnone]
  · have hdrop : after = (faults.perform (.remove (backupPath output.path)) tree).2 := by
      simp [after, dropBackup, replacement, hfile]
    have hitems := hreplaced
    simp only [contents, Contents.replaced, Contents.mk.injEq] at hitems
    obtain ⟨hdestination, hstaging, hbackup⟩ := hitems
    have hbackup : tree.item? output.backup = some (.file old) := by simpa [hfile] using hbackup
    obtain ⟨removed, hremove, hchanged⟩ :=
      removeFile_of_item (backupPath_isPlain hplain) hready.backup_fits hbackup (by simp)
    have hchanged : tree.ChangedTo removed output.backup none := hchanged
    rcases faults.perform_of_ok (.remove (backupPath output.path)) hremove with
      hperform | ⟨fault, hfault, hperform⟩
    · rw [hdrop, hperform]
      constructor
      · left
        simp [contents, Contents.committed, hfile, hchanged.self, hstaging, hdestination,
          hchanged.other (backup_ne_destination hplain).symm,
          hchanged.other (backup_ne_staging hplain).symm]
      · exact changesOnly_of_changed hchanged output.backup_mem
    · rw [hdrop, hperform]
      exact ⟨.inr ⟨hreplaced, tree, fault, hfault⟩, .refl [output] tree⟩

theorem rollback_eq_foldl (outputs : List Output) (start tree : FileTree) :
    ((rollback (outputs.map (replacement · start)) : OnDisk faults _).on tree).2 =
      outputs.foldl (fun tree o => ((restore (o.replacement start) : OnDisk faults _).on tree).2)
        tree := by
  induction outputs generalizing tree with
  | nil => rfl
  | cons output rest ih =>
    simp only [List.map_cons, rollback, on_bind, List.foldl_cons, ← ih]
    split <;> rfl

theorem dropBackups_eq_foldl (outputs : List Output) (start tree : FileTree) :
    ((dropBackups (outputs.map (replacement · start)) : OnDisk faults Unit).on tree).2 =
      outputs.foldl (fun tree o => dropBackup faults (o.replacement start) tree) tree := by
  induction outputs generalizing tree with
  | nil => rfl
  | cons output rest ih =>
    rw [List.map_cons, List.foldl_cons, ← ih, dropBackups, dropBackup]
    cases (output.replacement start).backup with
    | none => rfl
    | some backup => rfl

/-- Some outputs have gone through their replacement, the latest first, and the others wait. -/
structure Replacing (done rest : List Output) (start tree : FileTree) : Prop where
  ready : ∀ o ∈ done ++ rest, o.Ready tree
  replaceable : ∀ o ∈ done, o.Replaceable start
  replaced : ∀ o ∈ done, o.contents tree = (o.contents start).replaced
  waiting : ∀ o ∈ rest, o.contents tree = o.contents start
  changesOnly : ChangesOnly (done ++ rest) start tree

theorem Replacing.nil (h : ∀ o ∈ outputs, o.Waiting start) : Replacing [] outputs start start where
  ready := fun o ho => (h o ho).ready
  replaceable := by simp
  replaced := by simp
  waiting := fun _ _ => rfl
  changesOnly := .refl _ start

/-- What is done for one output of a commit leaves the others where they are. -/
structure OthersKept (done : List Output) (output : Output) (rest : List Output)
    (start after : FileTree) : Prop where
  ready : ∀ o ∈ done ++ output :: rest, o.Ready after
  replaced : ∀ o ∈ done, o.contents after = (o.contents start).replaced
  waiting : ∀ o ∈ rest, o.contents after = o.contents start
  changesOnly : ChangesOnly (done ++ output :: rest) start after

theorem Replacing.othersKept (h : Replacing done (output :: rest) start tree)
    (hseparated : (done ++ output :: rest).Pairwise Separated)
    (hchanges : ChangesOnly [output] tree after) : OthersKept done output rest start after := by
  have hperm : (done ++ output :: rest).Perm (output :: (done ++ rest)) := List.perm_middle
  have hsplit := List.pairwise_cons.mp (hperm.pairwise hseparated Separated.symm)
  have hothers : ∀ o ∈ done ++ rest, o.contents after = o.contents tree := fun o ho =>
    hchanges.contents_eq (by simpa using (hsplit.1 o ho).symm)
  constructor
  case ready =>
    intro o ho
    refine hchanges.ready (h.ready o ho) ?_
    rw [List.forall_mem_singleton]
    exact (List.mem_cons.mp (hperm.mem_iff.mp ho)).imp Eq.symm fun ho => (hsplit.1 o ho).symm
  case replaced =>
    intro o ho
    rw [hothers o (List.mem_append_left _ ho), h.replaced o ho]
  case waiting =>
    intro o ho
    rw [hothers o (List.mem_append_right _ ho), h.waiting o (List.mem_cons_of_mem _ ho)]
  case changesOnly =>
    exact (h.changesOnly.trans hchanges).mono (by simp)

/-- One more replacement keeps the invariant. -/
theorem Replacing.cons (h : Replacing done (output :: rest) start tree)
    (hseparated : (done ++ output :: rest).Pairwise Separated)
    (hreplaced : output.IsReplaced tree after) : Replacing (output :: done) rest start after := by
  have hperm : (done ++ output :: rest).Perm (output :: done ++ rest) := List.perm_middle
  have hkept := h.othersKept hseparated hreplaced.setTo.changesOnly
  have hfirst := h.waiting output List.mem_cons_self
  constructor
  case ready => exact fun o ho => hkept.ready o (hperm.mem_iff.mpr ho)
  case replaceable =>
    exact List.forall_mem_cons.mpr ⟨hreplaced.replaceable.congr hfirst, h.replaceable⟩
  case replaced =>
    refine List.forall_mem_cons.mpr ⟨?_, hkept.replaced⟩
    rw [hreplaced.setTo.contents, hfirst]
  case waiting => exact hkept.waiting
  case changesOnly => exact hkept.changesOnly.mono fun o ho => hperm.mem_iff.mp ho

/-- What stands at the locations of an output after its replacement has been given up. -/
structure IsGivenUp (output : Output) (start after : FileTree) : Prop where
  destination : after.item? output.destination = start.item? output.destination
  staging : after.item? output.staging = none
  backup : after.item? output.backup = none ∨
    after.item? output.backup = start.item? output.backup

theorem IsGivenUp.of_restored
    (h : output.contents after = (output.contents start).restored) : output.IsGivenUp start after :=
  { destination := destination_of_contents h
    staging := staging_of_contents h
    backup := by
      have hbackup : after.item? output.backup = _ := backup_of_contents h
      rw [hbackup]
      by_cases hfound : (start.item? output.destination).isSome
      · exact .inl (if_pos hfound)
      · exact .inr (if_neg hfound) }

theorem IsGivenUp.of_discarded (hwaits : output.StillWaits start tree)
    (h : output.contents after = { output.contents tree with staging := none }) :
    output.IsGivenUp start after where
  destination := (destination_of_contents h).trans hwaits.destination
  staging := staging_of_contents h
  backup := (backup_of_contents h : after.item? output.backup = _) ▸ hwaits.backup

theorem StillWaits.hasStaged (h : output.StillWaits start tree) (hstaged : output.HasStaged start) :
    output.HasStaged tree := by
  obtain ⟨item, hitem, hleaf⟩ := hstaged
  exact ⟨item, h.staging.trans hitem, hleaf⟩

theorem StillWaits.congr (h : output.StillWaits start tree)
    (heq : output.contents after = output.contents tree) : output.StillWaits start after where
  destination := (destination_of_contents heq).trans h.destination
  staging := (staging_of_contents heq).trans h.staging
  backup := by
    have hsame : after.item? output.backup = tree.item? output.backup := backup_of_contents heq
    rw [hsame]
    exact h.backup

theorem StillWaits.of_contents (h : output.contents tree = output.contents start) :
    output.StillWaits start tree :=
  (StillWaits.refl output start).congr h

/-- What waited until then still waits when its replacement fails. -/
theorem StillWaits.from_start (h : output.StillWaits tree after)
    (heq : output.contents tree = output.contents start) : output.StillWaits start after where
  destination := h.destination.trans (destination_of_contents heq)
  staging := h.staging.trans (staging_of_contents heq)
  backup := h.backup.imp_right fun hsame => hsame.trans (backup_of_contents heq)

/-- Some outputs have gone through their replacement, the latest first; that of another one has
failed, and with it the commit. -/
structure Failing (done rest : List Output) (start tree : FileTree) : Prop where
  ready : ∀ o ∈ done ++ rest, o.Ready tree
  replaceable : ∀ o ∈ done, o.Replaceable start
  replaced : ∀ o ∈ done, o.contents tree = (o.contents start).replaced
  waiting : ∀ o ∈ rest, o.StillWaits start tree
  changesOnly : ChangesOnly (done ++ rest) start tree

/-- A replacement that fails leaves the other outputs alone. -/
theorem Replacing.fail (h : Replacing done (output :: rest) start tree)
    (hseparated : (done ++ output :: rest).Pairwise Separated)
    (hwaits : output.StillWaits tree after) (hchanges : ChangesOnly [output] tree after) :
    Failing done (output :: rest) start after := by
  have hkept := h.othersKept hseparated hchanges
  have hfirst := h.waiting output List.mem_cons_self
  refine ⟨hkept.ready, h.replaceable, hkept.replaced, ?_, hkept.changesOnly⟩
  exact List.forall_mem_cons.mpr
    ⟨hwaits.from_start hfirst, fun o ho => .of_contents (hkept.waiting o ho)⟩

/-- Undoing the replacements and removing the staged files that are left gives every destination
back. -/
theorem Failing.giveUp (hspares : SparesUndoing faults) (h : Failing done rest start tree)
    (hwaiting : ∀ o ∈ done ++ rest, o.Waiting start)
    (hseparated : (done ++ rest).Pairwise Separated) :
    let restored := ((rollback (done.map (replacement · start)) : OnDisk faults _).on tree).2
    let after := ((discard (rest.map staged) : OnDisk faults Unit).on restored).2
    (∀ o ∈ done ++ rest, o.IsGivenUp start after) ∧ ChangesOnly (done ++ rest) start after := by
  intro restored after
  obtain ⟨hdone, hrest, hacross⟩ := List.pairwise_append.mp hseparated
  obtain ⟨hundone, hchanges⟩ : (∀ o ∈ done, o.contents restored = (o.contents start).restored) ∧
      ChangesOnly done tree restored := by
    simp only [restored, rollback_eq_foldl]
    exact foldl_contents
      (fun o ho current hready hcontents => setTo_restore hspares
        (hwaiting o (List.mem_append_left _ ho)) (h.replaceable o ho).names hready hcontents)
      hdone (fun o ho => h.ready o (List.mem_append_left _ ho)) h.replaced
  have hready : ∀ o ∈ rest, o.Ready restored := fun o ho =>
    hchanges.ready (h.ready o (List.mem_append_right _ ho))
      fun o' ho' => .inr (hacross o' ho' o ho).symm
  have hwaits : ∀ o ∈ rest, o.StillWaits start restored := fun o ho =>
    (h.waiting o ho).congr (hchanges.contents_eq fun o' ho' => (hacross o' ho' o ho).symm)
  obtain ⟨hdiscarded, hchanges'⟩ := on_discard hspares hrest hready fun o ho =>
    (hwaits o ho).hasStaged (hwaiting o (List.mem_append_right _ ho)).staged
  constructor
  · intro o ho
    rcases List.mem_append.mp ho with ho | ho
    · refine .of_restored ?_
      rw [hchanges'.contents_eq (hacross o ho), hundone o ho]
    · exact .of_discarded (hwaits o ho) (hdiscarded o ho)
  · refine (h.changesOnly.trans (hchanges.trans hchanges')).mono ?_
    simp

/-- Removing the backups finishes every replacement. -/
theorem Replacing.finish (h : Replacing done [] start tree)
    (hwaiting : ∀ o ∈ done, o.Waiting start) (hseparated : done.Pairwise Separated) :
    let after :=
      ((dropBackups (done.map (replacement · start)).reverse : OnDisk faults Unit).on tree).2
    (∀ o ∈ done, (o.contents after).IsCommitted faults o start) ∧ ChangesOnly done start after := by
  intro after
  have hmem : ∀ o ∈ done.reverse, o ∈ done := fun o ho => List.mem_reverse.mp ho
  have hready : ∀ o ∈ done, o.Ready tree := by simpa using h.ready
  have hchanges : ChangesOnly done start tree := by simpa using h.changesOnly
  obtain ⟨hcommitted, hdropped⟩ : (∀ o ∈ done.reverse,
      (o.contents after).IsCommitted faults o start) ∧ ChangesOnly done.reverse tree after := by
    simp only [after, ← List.map_reverse, dropBackups_eq_foldl]
    exact foldl_of_step
      (fun o ho current hcurrent hcontents => isCommitted_dropBackup (hwaiting o (hmem o ho))
        (h.replaceable o (hmem o ho)).names hcurrent hcontents)
      ((List.reverse_perm done).symm.pairwise hseparated Separated.symm)
      (fun o ho => hready o (hmem o ho)) (fun o ho => h.replaced o (hmem o ho))
  constructor
  · intro o ho
    exact hcommitted o (List.mem_reverse.mpr ho)
  · exact (hchanges.trans hdropped).mono (by simp)

/-- The commit replaces all outputs, or it fails. It then gives them all up, if everything can be
undone. -/
theorem on_commit (faults : Faults) (h : Replacing done rest start tree)
    (hwaiting : ∀ o ∈ done ++ rest, o.Waiting start)
    (hseparated : (done ++ rest).Pairwise Separated) :
    let outcome :=
      (commit (done.map (replacement · start)) (rest.map staged) : OnDisk faults _).on tree
    (outcome.1.1 = .ok () ∧
      (∀ o ∈ done ++ rest, o.Replaceable start ∧
        (o.contents outcome.2).IsCommitted faults o start) ∧
      ChangesOnly (done ++ rest) start outcome.2) ∨
    ((∃ failure, outcome.1.1 = .error failure) ∧ (SparesUndoing faults →
      (∀ o ∈ done ++ rest, o.IsGivenUp start outcome.2) ∧
        ChangesOnly (done ++ rest) start outcome.2)) := by
  induction rest generalizing done tree with
  | nil =>
    simp only [List.append_nil] at hwaiting hseparated ⊢
    obtain ⟨hcommitted, hchanges⟩ := h.finish hwaiting hseparated
    exact .inl ⟨rfl, fun o ho => ⟨h.replaceable o ho, hcommitted o ho⟩, hchanges⟩
  | cons output rest ih =>
    have hwait : output.Waiting tree := (hwaiting output (by simp)).congr
      (h.ready output (by simp)) (h.waiting output (by simp))
    have hperm : (done ++ output :: rest).Perm (output :: done ++ rest) := List.perm_middle
    simp only [List.map_cons, commit, on_bind]
    rcases on_replace faults hwait with ⟨hok, hreplaced⟩ | ⟨⟨failure, hfailure⟩, hrestored⟩
    · rw [replacement_congr (h.waiting output (by simp))] at hok
      simp only [hok]
      have hnext := ih (h.cons hseparated hreplaced)
        (fun o ho => hwaiting o (hperm.mem_iff.mpr ho)) (hperm.pairwise hseparated Separated.symm)
      simp only [hperm.mem_iff, ChangesOnly] at hnext ⊢
      exact hnext
    · simp only [hfailure, on_bind, on_pure]
      refine .inr ⟨⟨_, rfl⟩, fun hspares => ?_⟩
      obtain ⟨hwaits, hchanges⟩ := hrestored hspares
      exact (h.fail hseparated hwaits hchanges).giveUp hspares hwaiting hseparated

end TreeTypes.Output
