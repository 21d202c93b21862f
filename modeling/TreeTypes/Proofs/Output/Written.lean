import TreeTypes.Proofs.Output.WriteAll

/-!
# Outputs that have been written

A success of `writeAll` fills every destination unless a special file is in the way, and tells truly
which of them changed. It adds nothing but destinations and directories above them, unless the disk
has kept a backup from being removed.
-/

namespace TreeTypes.Output

-- As for staging, items are compared as they are.
attribute [local irreducible] FileTree.item?

open OnDisk

variable {faults : Faults} {output : Output} {outputs : List Output}
variable {before middle after tree : FileTree} {location : Location}

/-- Whether the text of an output is read at its destination. -/
def Holds (output : Output) (tree : FileTree) : Prop :=
  tree.contentAt? output.destination = some output.text.toUTF8

instance (output : Output) (tree : FileTree) : Decidable (output.Holds tree) :=
  inferInstanceAs (Decidable (_ = _))

/-- The outputs have been written. -/
structure Written (faults : Faults) (outputs : List Output) (before after : FileTree)
    (statuses : List (Path × WriteStatus)) : Prop where
  statuses_eq : statuses = outputs.map fun output =>
    (output.path, if output.Holds before then .unchanged else .written)
  /-- What held its text already is left as it was. -/
  unchanged : ∀ output ∈ outputs, output.Holds before →
    after.item? output.destination = before.item? output.destination
  /-- Any other destination is what the staging location was, which is a file with the text unless a
  special file stood there. -/
  replaced : ∀ output ∈ outputs, ¬ output.Holds before →
    after.item? output.destination = some (output.stagedItem before)
  /-- Special files apart, every destination is a file with its text. -/
  regular : ∀ output ∈ outputs, before.isSpecial output.destination = false →
    before.isSpecial output.staging = false →
    after.item? output.destination = some (.file output.text.toUTF8)
  /-- No staging or backup file is left where there was nothing, unless the disk has kept it. -/
  siblings : ∀ output ∈ outputs, ∀ location ∈ output.siblings,
    before.item? location = none → after.item? location = none ∨
      location = output.backup ∧ output.KeepsBackup faults
  /-- Nothing has been added but destinations, directories that they lie in and what the disk has
  kept. -/
  created : ∀ location, before.item? location = none → after.item? location ≠ none →
    location ∈ outputs.map destination ∨ NewFolder outputs before after location ∨
      ∃ output ∈ outputs, location = output.backup ∧ output.KeepsBackup faults
  others : GrownAway outputs
    (outputs.map destination ++ (outputs.filter (¬ ·.Holds before)).flatMap Output.siblings)
    before after

theorem Independent.upToDate_iff (hall : Independent tree outputs) (houtput : output ∈ outputs) :
    output.upToDate tree = true ↔ output.path.Fits ∧ output.Holds tree := by
  rw [Output.upToDate_iff, FileTree.readText_eq_ok_iff (hall.plain output houtput)
    (hall.noLink output houtput _ output.destination_mem)]
  rfl

namespace Committed

/-- The system takes the path of an output that is up to date or has been put into place. -/
theorem fits (h : Committed faults outputs before middle after) (hall : Independent before outputs)
    (houtput : output ∈ outputs) : output.path.Fits := by
  by_cases hfresh : output.upToDate before = true
  · exact ((hall.upToDate_iff houtput).mp hfresh).1
  · have hmem := mem_stale_of_not_upToDate houtput hfresh
    exact (h.staging.ready output hmem).destination_fits (h.committed output hmem).1.names

theorem upToDate_iff_holds (h : Committed faults outputs before middle after)
    (hall : Independent before outputs) (houtput : output ∈ outputs) :
    output.upToDate before = true ↔ output.Holds before := by
  rw [hall.upToDate_iff houtput, and_iff_right (h.fits hall houtput)]

/-- What was up to date is left alone. -/
theorem contents_of_upToDate (h : Committed faults outputs before middle after)
    (hall : Independent before outputs) (houtput : output ∈ outputs)
    (hfresh : output.upToDate before = true) : output.contents after = output.contents middle := by
  refine h.changesOnly.contents_eq fun o ho => hall.separated_of_ne houtput (stale_subset o ho) ?_
  rintro rfl
  exact not_mem_stale_of_upToDate hfresh ho

theorem destination_of_upToDate (h : Committed faults outputs before middle after)
    (hall : Independent before outputs) (houtput : output ∈ outputs)
    (hfresh : output.upToDate before = true) :
    after.item? output.destination = before.item? output.destination :=
  (destination_of_contents (h.contents_of_upToDate hall houtput hfresh)).trans
    (h.staging.item?_destination hall stale_subset houtput)

/-- What was not up to date is what has been staged. -/
theorem destination_of_stale (h : Committed faults outputs before middle after)
    (hmem : output ∈ stale before outputs) :
    after.item? output.destination = some (output.stagedItem before) :=
  (h.committed output hmem).2.destination.trans (h.staging.staging output hmem)

/-- Where no special file stands at the staging location, the text is read afterwards. -/
theorem holds (h : Committed faults outputs before middle after) (hall : Independent before outputs)
    (houtput : output ∈ outputs) (hspecial : before.isSpecial output.staging = false) :
    output.Holds after := by
  by_cases hfresh : output.upToDate before = true
  · have hbefore := (h.upToDate_iff_holds hall houtput).mp hfresh
    rw [Holds, FileTree.contentAt?, h.destination_of_upToDate hall houtput hfresh]
    exact hbefore
  · have hstaged := h.destination_of_stale (mem_stale_of_not_upToDate houtput hfresh)
    rw [Holds, FileTree.contentAt?, hstaged, stagedItem_of_not_special hspecial]
    rfl

/-- A sibling that was not there is not left behind, unless the disk has kept it. -/
theorem sibling_eq_none (h : Committed faults outputs before middle after)
    (hall : Independent before outputs) (houtput : output ∈ outputs)
    (hmem : location ∈ output.siblings) (hnone : before.item? location = none) :
    after.item? location = none ∨ location = output.backup ∧ output.KeepsBackup faults := by
  have hmiddle := h.staging.item?_eq hall stale_subset houtput
    (mem_locations_of_mem_siblings hmem)
  by_cases hfresh : output.upToDate before = true
  · have hcontents := h.contents_of_upToDate hall houtput hfresh
    have hmiddle := (hmiddle fun hstale =>
      absurd hstale (not_mem_stale_of_upToDate hfresh)).trans hnone
    rcases mem_siblings.mp hmem with rfl | rfl
    · exact .inl ((staging_of_contents hcontents).trans hmiddle)
    · exact .inl ((backup_of_contents hcontents).trans hmiddle)
  · have hcommitted := (h.committed output (mem_stale_of_not_upToDate houtput hfresh)).2
    rcases mem_siblings.mp hmem with rfl | rfl
    · exact .inl hcommitted.staging
    · have hmiddle := (hmiddle fun _ =>
        backup_ne_staging (hall.plain output houtput)).trans hnone
      rcases hcommitted.backup with ⟨-, hgone⟩ | ⟨-, hsame⟩ | ⟨-, hkeeps, -⟩
      · exact .inl hgone
      · exact .inl (hsame.trans hmiddle)
      · exact .inr ⟨rfl, hkeeps⟩

theorem grownAway (h : Committed faults outputs before middle after)
    (hall : Independent before outputs) :
    GrownAway outputs (outputs.map destination ++
      (outputs.filter (¬ ·.Holds before)).flatMap Output.siblings) before after := by
  intro location hlocation
  refine h.staging.grownAway h.changesOnly location fun hmem => hlocation ?_
  obtain ⟨o, ho, hmem⟩ := List.mem_flatMap.mp hmem
  have houtput := stale_subset o ho
  rw [List.mem_append]
  rcases mem_locations.mp hmem with rfl | hsibling
  · exact .inl (List.mem_map_of_mem houtput)
  · have hstale : ¬ o.Holds before := fun hholds =>
      not_mem_stale_of_upToDate ((h.upToDate_iff_holds hall houtput).mpr hholds) ho
    exact .inr (List.mem_flatMap.mpr ⟨o, by simpa using ⟨houtput, hstale⟩,
      mem_siblings.mpr hsibling⟩)

theorem status_eq (h : Committed faults outputs before middle after)
    (hall : Independent before outputs) (houtput : output ∈ outputs) :
    output.status before = if output.Holds before then .unchanged else .written := by
  simp only [status, h.upToDate_iff_holds hall houtput]

theorem written (h : Committed faults outputs before middle after)
    (hall : Independent before outputs) :
    Written faults outputs before after (outputs.map fun o => (o.path, o.status before)) where
  statuses_eq := List.map_congr_left fun o ho => by rw [h.status_eq hall ho]
  unchanged := fun _ houtput hholds =>
    h.destination_of_upToDate hall houtput ((h.upToDate_iff_holds hall houtput).mpr hholds)
  replaced := by
    intro o houtput hholds
    refine h.destination_of_stale (mem_stale_of_not_upToDate houtput ?_)
    rwa [Ne, h.upToDate_iff_holds hall houtput]
  regular := by
    intro o houtput hdestination hstaging
    refine FileTree.item?_eq_file_of_contentAt? ?_ (h.holds hall houtput hstaging)
    by_cases hfresh : o.upToDate before = true
    · rwa [FileTree.isSpecial, h.destination_of_upToDate hall houtput hfresh]
    · rw [FileTree.isSpecial, h.destination_of_stale (mem_stale_of_not_upToDate houtput hfresh),
        stagedItem_of_not_special hstaging]
  siblings := fun _ houtput _ hmem hnone => h.sibling_eq_none hall houtput hmem hnone
  created := by
    intro location hnone hne
    by_cases hdestination : location ∈ outputs.map destination
    · exact .inl hdestination
    by_cases hsibling : ∃ o ∈ outputs, location ∈ o.siblings
    · obtain ⟨o, houtput, hsibling⟩ := hsibling
      have hkept := (h.sibling_eq_none hall houtput hsibling hnone).resolve_left hne
      exact .inr (.inr ⟨o, houtput, hkept⟩)
    · refine .inr (.inl ((h.grownAway hall location fun hmem => ?_).resolve_left
        fun heq => hne (heq.trans hnone)))
      rcases List.mem_append.mp hmem with hmem | hmem
      · exact hdestination hmem
      · obtain ⟨o, ho, hmem⟩ := List.mem_flatMap.mp hmem
        exact hsibling ⟨o, (List.mem_filter.mp ho).1, hmem⟩
  others := h.grownAway hall

end Committed

/-- An attempt that succeeds has written the outputs. -/
theorem writeAll_written {statuses : List (Path × WriteStatus)} (hall : Independent before outputs)
    (hok : ((writeAll outputs : OnDisk faults WriteReport).on before).1.result = .ok statuses) :
    Written faults outputs before ((writeAll outputs : OnDisk faults WriteReport).on before).2
      statuses := by
  rcases on_writeAll faults hall with ⟨failure, hfailure, -⟩ | ⟨hok', middle, hcommitted⟩
  · simp [hfailure] at hok
  · obtain rfl := Except.ok.inj (hok'.symm.trans hok)
    exact hcommitted.written hall

/-- The first output holds its text already. -/
def firstWritten : FileTree := ⟨[("src", .directory [("first.rs", .file "first".toUTF8)])]⟩

theorem firstWritten_written :
    Independent firstWritten pairOfOutputs ∧
      ((writeAll pairOfOutputs : OnDisk .never WriteReport).on firstWritten).1.result =
        .ok [(⟨"src/first.rs"⟩, .unchanged), (⟨"src/second.rs"⟩, .written)] ∧
      Written .never pairOfOutputs firstWritten
        ((writeAll pairOfOutputs : OnDisk .never WriteReport).on firstWritten).2
        [(⟨"src/first.rs"⟩, .unchanged), (⟨"src/second.rs"⟩, .written)] := by
  have hindependent : Independent firstWritten pairOfOutputs := by decide +kernel
  have hok : ((writeAll pairOfOutputs : OnDisk .never WriteReport).on firstWritten).1.result =
      .ok [(⟨"src/first.rs"⟩, .unchanged), (⟨"src/second.rs"⟩, .written)] := by decide +kernel
  exact ⟨hindependent, hok, writeAll_written hindependent hok⟩

/-- The name at a location is that of a staged file or of a backup. -/
def Marked (location : Location) : Prop :=
  ∃ suffix ∈ [stagingSuffix, backupSuffix],
    ("." ++ suffix).toList <:+ (location.getLastD "").toList

instance (location : Location) : Decidable (Marked location) :=
  inferInstanceAs (Decidable (∃ suffix ∈ [stagingSuffix, backupSuffix],
    ("." ++ suffix).toList <:+ (location.getLastD "").toList))

/-- Nothing is there under the name of a staged file or of a backup. -/
def Unmarked (tree : FileTree) : Prop :=
  ∀ location, Marked location → tree.item? location = none

theorem Marked.ne_nil (h : Marked location) : location ≠ [] := by
  rintro rfl
  exact absurd h (by decide)

theorem unmarked_empty : Unmarked .empty := fun _ hmarked => FileTree.item?_empty hmarked.ne_nil

theorem unmarked_single {name : String} (content : ByteArray) (h : ¬ Marked [name]) :
    Unmarked ⟨[(name, .file content)]⟩ := by
  intro location hmarked
  exact FileTree.item?_single content hmarked.ne_nil fun heq => h (heq ▸ hmarked)

/-- Nothing is left under such a name if no output and no directory that one lies in has one, and
the backups can be removed. -/
theorem Written.unmarked {statuses : List (Path × WriteStatus)} (hspares : SparesUndoing faults)
    (h : Written faults outputs before after statuses)
    (hnames : ∀ output ∈ outputs, ∀ location, location <+: output.destination → ¬ Marked location)
    (hbefore : Unmarked before) : Unmarked after := by
  intro location hmarked
  by_contra hne
  rcases h.created location (hbefore location hmarked) hne with
    hdestination | ⟨-, -, output, houtput, hfolder⟩ | ⟨output, -, -, hkeeps⟩
  · obtain ⟨output, houtput, rfl⟩ := List.mem_map.mp hdestination
    exact hnames output houtput _ List.prefix_rfl hmarked
  · exact hnames output houtput location
      (hfolder.trans output.path.folder_prefix_location) hmarked
  · exact hspares.not_keepsBackup output hkeeps

/-- A disk that removes nothing. -/
def keepsAll : Faults := fun _ operation =>
  match operation with
  | .remove _ => some ⟨.other "Operation not permitted (os error 1)", none⟩
  | _ => none

/-- A special file that reads as the text is left alone. The name of a staged file is left where an
output has it, and that of a backup where the disk has kept it. -/
theorem not_regular_and_not_unmarked :
    (¬ ∀ (outputs : List Output) (before : FileTree) (statuses : List (Path × WriteStatus)),
      Independent before outputs →
      ((writeAll outputs : OnDisk .never WriteReport).on before).1.result = .ok statuses →
      ∀ output ∈ outputs,
        ((writeAll outputs : OnDisk .never WriteReport).on before).2.item? output.destination =
          some (.file output.text.toUTF8)) ∧
    (¬ ∀ (outputs : List Output) (before : FileTree) (statuses : List (Path × WriteStatus)),
      Independent before outputs →
      ((writeAll outputs : OnDisk .never WriteReport).on before).1.result = .ok statuses →
      Unmarked before →
        Unmarked ((writeAll outputs : OnDisk .never WriteReport).on before).2) ∧
    ¬ ∀ (faults : Faults) (outputs : List Output) (before : FileTree)
        (statuses : List (Path × WriteStatus)),
      Independent before outputs → (∀ output ∈ outputs, ¬ Marked output.destination) →
      ((writeAll outputs : OnDisk faults WriteReport).on before).1.result = .ok statuses →
      Unmarked before →
        Unmarked ((writeAll outputs : OnDisk faults WriteReport).on before).2 := by
  refine ⟨fun h => ?_, fun h => ?_, fun h => ?_⟩
  · have hfile := h [⟨⟨"null"⟩, ""⟩] ⟨[("null", .special .empty)]⟩ [(⟨"null"⟩, .unchanged)]
      (by decide +kernel) (by decide +kernel) _ List.mem_cons_self
    exact absurd (congrArg (Option.map Item.kind) hfile) (by decide +kernel)
  · have hgone := h [⟨⟨"x.astgen-tmp"⟩, "text"⟩] .empty [(⟨"x.astgen-tmp"⟩, .written)]
      (by decide +kernel) (by decide +kernel) unmarked_empty ["x.astgen-tmp"] (by decide)
    exact absurd (congrArg Option.isSome hgone) (by decide +kernel)
  · have hgone := h keepsAll [⟨⟨"x.rs"⟩, "new"⟩] ⟨[("x.rs", .file "old".toUTF8)]⟩
      [(⟨"x.rs"⟩, .written)] (by decide +kernel) (by decide +kernel) (by decide +kernel)
      (unmarked_single _ (by decide)) ["x.rs.astgen-bak"] (by decide)
    exact absurd (congrArg Option.isSome hgone) (by decide +kernel)

end TreeTypes.Output
