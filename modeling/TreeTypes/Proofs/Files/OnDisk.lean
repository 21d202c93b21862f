import TreeTypes.Files.Output
import TreeTypes.Proofs.Files.Effects

/-!
# Computations started on a tree

`x.on tree` is the outcome of a computation with the tree that it leaves. An operation that fails
leaves the tree alone, but for a file whose writing was cut short. Making the directories that a
path lies in adds directories above it and changes nothing else, whether it succeeds or not.
-/

namespace TreeTypes

variable {α β : Type} {faults : Faults} {operation : FileOperation} {failure : FileError}
variable {tree : FileTree} {path : Path} {content : ByteArray} {text : String}

namespace OnDisk

/-- The outcome of a computation that is started on a tree, and the tree that it leaves. -/
def on (x : OnDisk faults α) (tree : FileTree) : α × FileTree := x tree

@[simp] theorem on_pure (a : α) (tree : FileTree) :
    (pure a : OnDisk faults α).on tree = (a, tree) := rfl

@[simp] theorem on_bind (x : OnDisk faults α) (f : α → OnDisk faults β) (tree : FileTree) :
    (x >>= f).on tree = (f (x.on tree).1).on (x.on tree).2 := rfl

end OnDisk

namespace FileTree

/-- The outcome of an operation and the tree that it leaves, the same one on failure. -/
def attempt (tree : FileTree) : Except FileError FileTree → Except FileError Unit × FileTree
  | .ok after => (.ok (), after)
  | .error failure => (.error failure, tree)

@[simp] theorem attempt_ok (tree after : FileTree) : tree.attempt (.ok after) = (.ok (), after) :=
  rfl

@[simp] theorem attempt_error (tree : FileTree) (failure : FileError) :
    tree.attempt (.error failure) = (.error failure, tree) := rfl

end FileTree

namespace Faults

theorem perform_of_spared (h : faults tree operation = none) :
    faults.perform operation tree = tree.attempt (tree.apply operation) := by
  unfold perform
  cases tree.apply operation with
  | error failure => rfl
  | ok after => simp [h]

@[simp] theorem perform_never (operation : FileOperation) (tree : FileTree) :
    never.perform operation tree = tree.attempt (tree.apply operation) :=
  perform_of_spared rfl

theorem perform_of_error (h : tree.apply operation = .error failure) :
    faults.perform operation tree = (.error failure, tree) := by
  simp [perform, h]

/-- What the tree allows is done unless the disk fails. -/
theorem perform_of_ok {after : FileTree} (faults : Faults) (operation : FileOperation)
    (h : tree.apply operation = .ok after) :
    faults.perform operation tree = (.ok (), after) ∨
      ∃ fault, faults tree operation = some fault ∧
        faults.perform operation tree =
          (.error fault.failure, tree.afterFault operation fault) := by
  cases hfault : faults tree operation with
  | none => exact .inl (by simp [perform, h, hfault])
  | some fault => exact .inr ⟨fault, rfl, by simp [perform, h, hfault]⟩

/-- An operation does what the tree says, or it fails. -/
theorem perform_cases (faults : Faults) (operation : FileOperation) (tree : FileTree) :
    (∃ after, tree.apply operation = .ok after ∧
      faults.perform operation tree = (.ok (), after)) ∨
    (∃ failure, faults.perform operation tree = (.error failure, tree)) ∨
    ∃ fault, faults tree operation = some fault ∧
      faults.perform operation tree = (.error fault.failure, tree.afterFault operation fault) := by
  cases happly : tree.apply operation with
  | error failure => exact .inr (.inl ⟨failure, perform_of_error happly⟩)
  | ok after =>
    rcases faults.perform_of_ok operation happly with hperform | hfault
    · exact .inl ⟨after, rfl, hperform⟩
    · exact .inr (.inr hfault)

/-- An operation that fails leaves the tree alone unless it writes a file. -/
theorem perform_cases_of_ne_write (faults : Faults) (operation : FileOperation)
    (tree : FileTree) (h : ∀ path content, operation ≠ .write path content) :
    (∃ after, tree.apply operation = .ok after ∧
      faults.perform operation tree = (.ok (), after)) ∨
    ∃ failure, faults.perform operation tree = (.error failure, tree) := by
  rcases faults.perform_cases operation tree with hok | hfailed | ⟨fault, -, hfailed⟩
  · exact .inl hok
  · exact .inr hfailed
  · cases operation with
    | write path content => exact absurd rfl (h path content)
    | createDirectory | rename | remove => exact .inr ⟨_, hfailed⟩

theorem perform_rename_cases (faults : Faults) (old new : Path) (tree : FileTree) :
    (∃ after, tree.rename old new = .ok after ∧
      faults.perform (.rename old new) tree = (.ok (), after)) ∨
    ∃ failure, faults.perform (.rename old new) tree = (.error failure, tree) :=
  faults.perform_cases_of_ne_write (.rename old new) tree (by simp)

/-- Writing a file that fails leaves the tree alone or the first bytes in the file. -/
theorem perform_write_cases (faults : Faults) (path : Path) (content : ByteArray)
    (tree : FileTree) :
    (∃ after, tree.writeFile path content = .ok after ∧
      faults.perform (.write path content) tree = (.ok (), after)) ∨
    (∃ failure, faults.perform (.write path content) tree = (.error failure, tree)) ∨
    ∃ failure written after, faults tree (.write path content) = some ⟨failure, some written⟩ ∧
      tree.writeFile path (content.extract 0 written) = .ok after ∧
      faults.perform (.write path content) tree = (.error failure, after) := by
  rcases faults.perform_cases (.write path content) tree with
    hok | hfailed | ⟨⟨failure, _ | written⟩, hfault, hfailed⟩
  · exact .inl hok
  · exact .inr (.inl hfailed)
  · exact .inr (.inl ⟨failure, hfailed⟩)
  · simp only [FileTree.afterFault] at hfailed
    split at hfailed
    case h_1 after hwrite => exact .inr (.inr ⟨failure, written, after, hfault, hwrite, hfailed⟩)
    case h_2 => exact .inr (.inl ⟨failure, hfailed⟩)

end Faults

namespace FileAccess

open OnDisk

@[simp] theorem on_entryKind (followLast : Bool) (path : Path) (tree : FileTree) :
    (entryKind followLast path : OnDisk faults _).on tree =
      ((tree.itemAt followLast path).map Item.kind, tree) := rfl

@[simp] theorem on_readFile (path : Path) (tree : FileTree) :
    (readFile path : OnDisk faults _).on tree = (tree.readFile path, tree) := rfl

@[simp] theorem on_writeText (path : Path) (text : String) (tree : FileTree) :
    (writeText path text : OnDisk faults _).on tree =
      faults.perform (.write path text.toUTF8) tree := rfl

@[simp] theorem on_createDirectory (path : Path) (tree : FileTree) :
    (createDirectory path : OnDisk faults _).on tree =
      faults.perform (.createDirectory path) tree := rfl

@[simp] theorem on_rename (old new : Path) (tree : FileTree) :
    (rename old new : OnDisk faults _).on tree = faults.perform (.rename old new) tree := rfl

@[simp] theorem on_removeFile (path : Path) (tree : FileTree) :
    (removeFile path : OnDisk faults _).on tree = faults.perform (.remove path) tree := rfl

@[simp] theorem on_readText (path : Path) (tree : FileTree) :
    (readText path : OnDisk faults _).on tree = (tree.readText path, tree) := by
  simp only [readText, FileTree.readText, on_bind, on_readFile]
  cases tree.readFile path with
  | error failure => rfl
  | ok content => simp only; cases String.fromUTF8? content <;> rfl

theorem on_pathExists (path : Path) (tree : FileTree) :
    (pathExists path : OnDisk faults Bool).on tree = ((tree.itemAt true path).toBool, tree) := by
  simp only [pathExists, on_bind, on_entryKind]
  cases tree.itemAt true path <;> rfl

theorem on_isDirectory (path : Path) (tree : FileTree) :
    ((isDirectory path : OnDisk faults Bool).on tree).2 = tree := by
  simp only [isDirectory, on_bind, on_entryKind]
  rcases tree.itemAt true path with _ | _ | _ | _ | _ <;> rfl

end FileAccess

namespace FileTree

variable {before middle after : FileTree} {folder location : Location}

/-- A tree differs from another in nothing but new directories at or above a location. -/
def GrownTo (before after : FileTree) (folder : Location) : Prop :=
  ∀ other, after.item? other = before.item? other ∨
    before.item? other = none ∧ after.item? other = some .directory ∧ other <+: folder

theorem GrownTo.refl (tree : FileTree) (folder : Location) : tree.GrownTo tree folder :=
  fun _ => .inl rfl

theorem GrownTo.trans (h : before.GrownTo middle folder) (h' : middle.GrownTo after folder) :
    before.GrownTo after folder := by
  intro other
  rcases h' other with heq | ⟨hnone, hsome, hpre⟩
  · rw [heq]
    exact h other
  · refine .inr ⟨?_, hsome, hpre⟩
    rcases h other with heq | ⟨-, hdirectory, -⟩
    · rw [← heq, hnone]
    · simp [hdirectory] at hnone

theorem GrownTo.noLinkTo (h : before.GrownTo after folder) (hlink : before.NoLinkTo location) :
    after.NoLinkTo location := by
  intro above habove target htarget
  rcases h above with heq | ⟨-, hdirectory, -⟩
  · exact hlink above habove target (heq ▸ htarget)
  · simp [hdirectory] at htarget

end FileTree

open FileTree OnDisk FileAccess

theorem createDirectory_grownTo {folder : Location} (hplain : path.IsPlain)
    (hpre : path.names <+: folder) (hlink : tree.NoLinkTo folder) :
    tree.GrownTo (faults.perform (.createDirectory path) tree).2 folder := by
  rcases faults.perform_cases_of_ne_write (.createDirectory path) tree (by simp) with
    ⟨after, hcreate, hperform⟩ | ⟨failure, hperform⟩
  · rw [hperform]
    have hlink' : tree.NoLinkTo path.folder :=
      hlink.of_above ((List.dropLast_prefix _).trans hpre)
    obtain ⟨hne, hnone, hchanged⟩ := createDirectory_eq_ok hplain hlink' hcreate
    intro other
    by_cases heq : other = path.location
    · subst heq
      refine .inr ⟨hnone, hchanged.self, ?_⟩
      rw [Path.location, ← Path.names_eq_folder_concat hne]
      exact hpre
    · exact .inl (hchanged.other heq)
  · rw [hperform]
    exact GrownTo.refl tree folder

theorem ensureDirectory_tree (path : Path) (tree : FileTree) :
    ((ensureDirectory path : OnDisk faults _).on tree).2 =
      (faults.perform (.createDirectory path) tree).2 := by
  simp only [ensureDirectory, on_bind, on_createDirectory]
  split
  · simp only [on_bind, on_isDirectory]
    split <;> rfl
  · rfl

theorem ensureDirectory_grownTo {folder : Location} (hplain : path.IsPlain)
    (hpre : path.names <+: folder) (hlink : tree.NoLinkTo folder) :
    tree.GrownTo ((ensureDirectory path : OnDisk faults _).on tree).2 folder := by
  rw [ensureDirectory_tree]
  exact createDirectory_grownTo hplain hpre hlink

/-- Making the directories of a lineage makes nothing else, even when it fails half-way. -/
theorem ensureLineage_grownTo {folder : Location} {lineage : List Path}
    (hlineage : ∀ sub ∈ lineage, sub.IsPlain ∧ sub.names <+: folder)
    (hlink : tree.NoLinkTo folder) :
    tree.GrownTo ((ensureLineage lineage : OnDisk faults _).on tree).2 folder := by
  induction lineage generalizing tree with
  | nil => exact GrownTo.refl tree folder
  | cons path above ih =>
    obtain ⟨⟨hplain, hpre⟩, habove⟩ := List.forall_mem_cons.mp hlineage
    have hfirst : tree.GrownTo ((ensureDirectory path : OnDisk faults _).on tree).2 folder :=
      ensureDirectory_grownTo hplain hpre hlink
    simp only [ensureLineage, on_bind]
    split
    case h_1 =>
      have hmiddle := hfirst.trans (ih habove (hfirst.noLinkTo hlink))
      simp only [on_bind]
      split
      case h_1 => exact hmiddle
      case h_2 =>
        exact hmiddle.trans (ensureDirectory_grownTo hplain hpre (hmiddle.noLinkTo hlink))
    case h_2 => exact hfirst

/-- Making the directories that a plain path lies in makes nothing else. -/
theorem ensureParent_grownTo (hplain : path.IsPlain) (hlink : tree.NoLinkTo path.folder) :
    tree.GrownTo ((Output.ensureParent path : OnDisk faults _).on tree).2 path.folder := by
  unfold Output.ensureParent
  split
  case h_1 => exact GrownTo.refl tree _
  case h_2 parent hparent =>
    split
    · exact GrownTo.refl tree _
    · exact ensureLineage_grownTo (Path.lineage_of_parent? hplain.1 hparent) hlink

end TreeTypes
