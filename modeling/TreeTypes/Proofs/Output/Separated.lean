import Mathlib.Data.List.Pairwise
import TreeTypes.Proofs.Files.OnDisk

/-!
# Separated outputs

An output touches three locations: its destination, the staged file and the backup beside it. Two
outputs are separated when none of the three locations of one names, contains or lies below one of
the other; then whatever is done for one leaves alone all that the other depends on. Loops over
separated outputs can therefore be followed output by output, which `foldl_of_step` states once for
all of them.
-/

namespace TreeTypes

/-- Neither of two locations names, contains or lies below the other. -/
def Location.Apart (a b : Location) : Prop := ¬ a <+: b ∧ ¬ b <+: a

instance (a b : Location) : Decidable (Location.Apart a b) :=
  inferInstanceAs (Decidable (¬ a <+: b ∧ ¬ b <+: a))

namespace Output

variable {output other : Output} {outputs : List Output} {location : Location}
variable {tree before middle after : FileTree}

/-- The location that an output is to fill. -/
def destination (output : Output) : Location := output.path.location

/-- The location of the staged file of an output. -/
def staging (output : Output) : Location := (stagingPath output.path).location

/-- The location of the backup of an output. -/
def backup (output : Output) : Location := (backupPath output.path).location

/-- The locations beside the destination that an output uses on its way. -/
def siblings (output : Output) : List Location := [output.staging, output.backup]

/-- The locations that an output touches. -/
def locations (output : Output) : List Location :=
  [output.destination, output.staging, output.backup]

theorem mem_locations : location ∈ output.locations ↔
    location = output.destination ∨ location = output.staging ∨ location = output.backup := by
  simp [locations]

theorem mem_siblings : location ∈ output.siblings ↔
    location = output.staging ∨ location = output.backup := by
  simp [siblings]

theorem mem_locations_of_mem_siblings (h : location ∈ output.siblings) :
    location ∈ output.locations :=
  mem_locations.mpr (.inr (mem_siblings.mp h))

theorem destination_mem (output : Output) : output.destination ∈ output.locations :=
  mem_locations.mpr (.inl rfl)

theorem staging_mem (output : Output) : output.staging ∈ output.locations :=
  mem_locations.mpr (.inr (.inl rfl))

theorem backup_mem (output : Output) : output.backup ∈ output.locations :=
  mem_locations.mpr (.inr (.inr rfl))

/-- No location of one output names, contains or lies below one of the other. -/
def Separated (a b : Output) : Prop :=
  ∀ x ∈ a.locations, ∀ y ∈ b.locations, Location.Apart x y

instance (a b : Output) : Decidable (Separated a b) :=
  inferInstanceAs (Decidable (∀ x ∈ a.locations, ∀ y ∈ b.locations, Location.Apart x y))

/-- Outputs that cannot get in each other's way: they have plain paths, no link stands at or above
their locations, and every two of them are separated. -/
structure Independent (tree : FileTree) (outputs : List Output) : Prop where
  plain : ∀ output ∈ outputs, output.path.IsPlain
  noLink : ∀ output ∈ outputs, ∀ location ∈ output.locations, tree.NoLinkTo location
  separated : outputs.Pairwise Separated

instance (tree : FileTree) (outputs : List Output) : Decidable (Independent tree outputs) :=
  decidable_of_iff ((∀ output ∈ outputs, output.path.IsPlain) ∧
      (∀ output ∈ outputs, ∀ location ∈ output.locations, tree.NoLinkTo location) ∧
      outputs.Pairwise Separated)
    ⟨fun h => ⟨h.1, h.2.1, h.2.2⟩, fun h => ⟨h.plain, h.noLink, h.separated⟩⟩

theorem Separated.symm (h : Separated output other) : Separated other output := by
  intro y hy x hx
  exact (h x hx y hy).symm

instance : Std.Symm Separated := ⟨fun _ _ => Separated.symm⟩

theorem Independent.separated_of_ne (h : Independent tree outputs) (houtput : output ∈ outputs)
    (hother : other ∈ outputs) (hne : output ≠ other) : Separated output other :=
  h.separated.forall houtput hother hne

theorem locations_congr (h : output.path = other.path) : output.locations = other.locations := by
  simp only [locations, destination, staging, backup, h]

/-- Whether outputs are independent does not depend on their texts. -/
theorem Independent.congr {others : List Output} (h : Independent tree outputs)
    (hpaths : others.map path = outputs.map path) : Independent tree others := by
  have hsame : ∀ other ∈ others, ∃ output ∈ outputs, output.path = other.path := by
    intro other hother
    have hpath : other.path ∈ outputs.map path := hpaths ▸ List.mem_map_of_mem hother
    exact List.mem_map.mp hpath
  constructor
  case plain =>
    intro other hother
    obtain ⟨output, houtput, hpath⟩ := hsame other hother
    exact hpath ▸ h.plain output houtput
  case noLink =>
    intro other hother location hlocation
    obtain ⟨output, houtput, hpath⟩ := hsame other hother
    exact h.noLink output houtput location (locations_congr hpath ▸ hlocation)
  case separated =>
    have hpairwise : (outputs.map path).Pairwise fun p q => Separated ⟨p, ""⟩ ⟨q, ""⟩ :=
      List.pairwise_map.mpr h.separated
    rw [← hpaths, List.pairwise_map] at hpairwise
    exact hpairwise

theorem stagingPath_isPlain (h : output.path.IsPlain) : (stagingPath output.path).IsPlain :=
  Path.isPlain_sibling h (by decide) (by decide)

theorem backupPath_isPlain (h : output.path.IsPlain) : (backupPath output.path).IsPlain :=
  Path.isPlain_sibling h (by decide) (by decide)

theorem stagingPath_folder (h : output.path.IsPlain) :
    (stagingPath output.path).folder = output.path.folder :=
  Path.folder_sibling h (by decide)

theorem backupPath_folder (h : output.path.IsPlain) :
    (backupPath output.path).folder = output.path.folder :=
  Path.folder_sibling h (by decide)

theorem staging_eq (h : output.path.IsPlain) :
    output.staging = output.path.folder ++ [output.path.lastName ++ "." ++ stagingSuffix] :=
  Path.location_sibling h (by decide)

theorem backup_eq (h : output.path.IsPlain) :
    output.backup = output.path.folder ++ [output.path.lastName ++ "." ++ backupSuffix] :=
  Path.location_sibling h (by decide)

theorem append_suffix_ne (name : String) {suffix : String} : name ++ "." ++ suffix ≠ name := by
  intro heq
  have hlength := congrArg (fun text => text.toList.length) heq
  simp at hlength

theorem staging_ne_destination (h : output.path.IsPlain) :
    output.staging ≠ output.destination := by
  rw [staging_eq h, destination, Path.location]
  simpa using append_suffix_ne output.path.lastName

theorem backup_ne_destination (h : output.path.IsPlain) :
    output.backup ≠ output.destination := by
  rw [backup_eq h, destination, Path.location]
  simpa using append_suffix_ne output.path.lastName

theorem backup_ne_staging (h : output.path.IsPlain) : output.backup ≠ output.staging := by
  rw [backup_eq h, staging_eq h]
  simp [backupSuffix, stagingSuffix]

/-- The locations of an output lie in one directory. -/
theorem exists_eq_of_mem_locations (h : output.path.IsPlain)
    (hmem : location ∈ output.locations) : ∃ name, location = output.path.folder ++ [name] := by
  rcases mem_locations.mp hmem with rfl | rfl | rfl
  · exact ⟨_, rfl⟩
  · exact ⟨_, staging_eq h⟩
  · exact ⟨_, backup_eq h⟩

theorem eq_of_prefix_of_mem_locations {below : Location} (h : output.path.IsPlain)
    (hmem : location ∈ output.locations) (hbelow : below ∈ output.locations)
    (hpre : location <+: below) : location = below := by
  obtain ⟨name, rfl⟩ := exists_eq_of_mem_locations h hmem
  obtain ⟨name', rfl⟩ := exists_eq_of_mem_locations h hbelow
  exact hpre.eq_of_length (by simp)

theorem not_mem_locations_of_prefix_folder (h : output.path.IsPlain)
    (hpre : location <+: output.path.folder) : location ∉ output.locations := by
  intro hmem
  obtain ⟨name, rfl⟩ := exists_eq_of_mem_locations h hmem
  have hlength := hpre.length_le
  simp only [List.length_append, List.length_singleton] at hlength
  omega

theorem Separated.not_mem_of_above {above : Location} (h : Separated output other)
    (hmem : location ∈ output.locations) (hpre : above <+: location) :
    above ∉ other.locations := by
  intro habove
  exact (h location hmem above habove).2 hpre

theorem Separated.folder_not_mem (h : Separated output other)
    (hpre : location <+: output.path.folder) : location ∉ other.locations :=
  h.not_mem_of_above output.destination_mem
    (hpre.trans output.path.folder_prefix_location)

/-- What stands at the three locations of an output. -/
structure Contents where
  destination : Option Item
  staging : Option Item
  backup : Option Item

/-- What stands at the locations of an output in a tree. -/
def contents (output : Output) (tree : FileTree) : Contents :=
  ⟨tree.item? output.destination, tree.item? output.staging, tree.item? output.backup⟩

theorem destination_of_contents {c : Contents} (h : output.contents tree = c) :
    tree.item? output.destination = c.destination := by
  rw [← h, contents]

theorem staging_of_contents {c : Contents} (h : output.contents tree = c) :
    tree.item? output.staging = c.staging := by
  rw [← h, contents]

theorem backup_of_contents {c : Contents} (h : output.contents tree = c) :
    tree.item? output.backup = c.backup := by
  rw [← h, contents]

/-- The directory of an output is there, and the system takes the names of its siblings. -/
structure Ready (output : Output) (tree : FileTree) : Prop where
  plain : output.path.IsPlain
  fits : (stagingPath output.path).Fits
  directory : tree.item? output.path.folder = some .directory

/-- Two trees differ in nothing but what stands at the locations of some outputs. -/
def ChangesOnly (outputs : List Output) (before after : FileTree) : Prop :=
  ∀ location, (∀ output ∈ outputs, location ∉ output.locations) →
    after.item? location = before.item? location

/-- What stands at the locations of an output has been set, and nothing else has changed. -/
structure SetTo (output : Output) (before after : FileTree) (c : Contents) : Prop where
  contents : output.contents after = c
  changesOnly : ChangesOnly [output] before after

theorem changesOnly_of_changed {item : Option Item} (h : before.ChangedTo after location item)
    (hmem : location ∈ output.locations) : ChangesOnly [output] before after := by
  intro other hother
  refine h.other ?_
  rintro rfl
  exact hother output (by simp) hmem

theorem ChangesOnly.refl (outputs : List Output) (tree : FileTree) :
    ChangesOnly outputs tree tree := fun _ _ => rfl

theorem ChangesOnly.trans {more : List Output} (h : ChangesOnly outputs before middle)
    (h' : ChangesOnly more middle after) : ChangesOnly (outputs ++ more) before after := by
  intro location hlocation
  rw [h' location fun o ho => hlocation o (List.mem_append_right _ ho),
    h location fun o ho => hlocation o (List.mem_append_left _ ho)]

theorem ChangesOnly.mono {more : List Output} (h : ChangesOnly outputs before after)
    (hsubset : outputs ⊆ more) : ChangesOnly more before after := by
  intro location hlocation
  exact h location fun o ho => hlocation o (hsubset ho)

/-- What is done for some outputs leaves the locations of the others alone. -/
theorem ChangesOnly.contents_eq (h : ChangesOnly outputs before after)
    (hseparated : ∀ o ∈ outputs, Separated output o) :
    output.contents after = output.contents before := by
  have hitem : ∀ location ∈ output.locations, after.item? location = before.item? location :=
    fun location hmem => h location fun o ho =>
      (hseparated o ho).not_mem_of_above hmem List.prefix_rfl
  simp only [locations, List.forall_mem_cons] at hitem
  simp [contents, hitem]

/-- What is done for some outputs leaves the directories of all alone. -/
theorem ChangesOnly.ready (h : ChangesOnly outputs before after) (hready : output.Ready before)
    (hseparated : ∀ o ∈ outputs, o = output ∨ Separated output o) : output.Ready after := by
  refine ⟨hready.plain, hready.fits, ?_⟩
  rw [h _ fun o ho => ?_, hready.directory]
  rcases hseparated o ho with rfl | hseparated
  · exact not_mem_locations_of_prefix_folder hready.plain List.prefix_rfl
  · exact hseparated.folder_not_mem List.prefix_rfl

/-- A loop over separated outputs does for each what one step does for it. -/
theorem foldl_of_step {step : FileTree → Output → FileTree} {p : Output → Contents}
    {q : Output → Contents → Prop}
    (hstep : ∀ o ∈ outputs, ∀ tree, o.Ready tree → o.contents tree = p o →
      q o (o.contents (step tree o)) ∧ ChangesOnly [o] tree (step tree o))
    (hseparated : outputs.Pairwise Separated) (hready : ∀ o ∈ outputs, o.Ready tree)
    (hcontents : ∀ o ∈ outputs, o.contents tree = p o) :
    (∀ o ∈ outputs, q o (o.contents (outputs.foldl step tree))) ∧
      ChangesOnly outputs tree (outputs.foldl step tree) := by
  induction outputs generalizing tree with
  | nil => exact ⟨by simp, ChangesOnly.refl [] tree⟩
  | cons first rest ih =>
    obtain ⟨hfirst, hrest⟩ := List.pairwise_cons.mp hseparated
    obtain ⟨hdone, hchanges⟩ := hstep first List.mem_cons_self tree
      (hready first List.mem_cons_self) (hcontents first List.mem_cons_self)
    have hapart : ∀ o ∈ rest, ∀ o' ∈ [first], Separated o o' := by
      intro o ho o' ho'
      obtain rfl := List.mem_singleton.mp ho'
      exact (hfirst o ho).symm
    obtain ⟨hothers, hloop⟩ := ih (fun o ho => hstep o (List.mem_cons_of_mem _ ho)) hrest
      (fun o ho => hchanges.ready (hready o (List.mem_cons_of_mem _ ho))
        fun o' ho' => .inr (hapart o ho o' ho'))
      (fun o ho => (hchanges.contents_eq (hapart o ho)).trans
        (hcontents o (List.mem_cons_of_mem _ ho)))
    refine ⟨?_, hchanges.trans hloop⟩
    intro o ho
    rcases List.mem_cons.mp ho with rfl | ho
    · have hkept := hloop.contents_eq hfirst
      rw [List.foldl_cons, hkept]
      exact hdone
    · exact hothers o ho

theorem foldl_contents {step : FileTree → Output → FileTree} {p q : Output → Contents}
    (hstep : ∀ o ∈ outputs, ∀ tree, o.Ready tree → o.contents tree = p o →
      o.SetTo tree (step tree o) (q o))
    (hseparated : outputs.Pairwise Separated) (hready : ∀ o ∈ outputs, o.Ready tree)
    (hcontents : ∀ o ∈ outputs, o.contents tree = p o) :
    (∀ o ∈ outputs, o.contents (outputs.foldl step tree) = q o) ∧
      ChangesOnly outputs tree (outputs.foldl step tree) := by
  refine @foldl_of_step outputs tree step p (fun o c => c = q o) ?_ hseparated hready hcontents
  intro o ho current hcurrent hcontents
  have hset := hstep o ho current hcurrent hcontents
  exact ⟨hset.contents, hset.changesOnly⟩

end Output

end TreeTypes
