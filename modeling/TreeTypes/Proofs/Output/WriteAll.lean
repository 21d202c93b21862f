import TreeTypes.Proofs.Output.Commit

/-!
# Writing outputs all or nothing

For independent outputs, and on a disk that lets everything be undone, a failure of `writeAll` is
undone wherever it came from: every destination is as before with all that lies below it, and of the
siblings and directories that were made only new directories above the destinations remain. The
exception is a staged file whose writing was cut short, for nothing removes it.
-/

namespace TreeTypes.Output

-- As for staging, items are compared as they are.
attribute [local irreducible] FileTree.item?

open OnDisk

variable {faults : Faults} {output : Output} {outputs done : List Output}
variable {before middle after tree : FileTree} {location : Location} {left : List Location}
variable {failure : WriteFailure}

/-- Nothing is left of an attempt to write outputs but new directories that they lie in, and what is
left at some of their siblings. -/
structure RolledBack (outputs : List Output) (left : List Location) (before after : FileTree) :
    Prop where
  /-- Every destination is as it was, with all that lies below it. -/
  destinations : ∀ output ∈ outputs, ∀ location, output.destination <+: location →
    after.item? location = before.item? location
  /-- What stands at a staging or backup location stood there before. -/
  siblings : ∀ output ∈ outputs, ∀ location ∈ output.siblings, location ∉ left →
    after.item? location = none ∨ after.item? location = before.item? location
  others : GrownAway outputs (outputs.flatMap Output.siblings) before after

theorem destination_not_mem_siblings (h : output.path.IsPlain) :
    output.destination ∉ output.siblings := by
  simp [siblings, (staging_ne_destination h).symm, (backup_ne_destination h).symm]

theorem RolledBack.of_undone (hall : Independent before outputs)
    (h : Undone outputs left before after) : RolledBack outputs left before after where
  destinations := by
    intro output houtput location hpre
    rcases h location with heq | ⟨-, -, other, hother, hfolder⟩ | ⟨hsibling, -⟩
    · exact heq
    · exact absurd (hpre.trans hfolder)
        (hall.not_prefix_folder houtput output.destination_mem hother)
    · obtain ⟨other, hother, hsibling⟩ := List.mem_flatMap.mp hsibling
      have hmem : location ∈ other.locations := mem_locations_of_mem_siblings hsibling
      have hplain := hall.plain output houtput
      by_cases heq : output = other
      · subst heq
        obtain rfl := eq_of_prefix_of_mem_locations hplain output.destination_mem hmem hpre
        exact absurd hsibling (destination_not_mem_siblings hplain)
      · exact absurd output.destination_mem
          ((hall.separated_of_ne houtput hother heq).symm.not_mem_of_above hmem hpre)
  siblings := by
    intro output houtput location hsibling hleft
    rcases h location with heq | hfolder | ⟨-, hnone | hmem⟩
    · exact .inr heq
    · exact absurd hfolder
        (hall.not_newFolder houtput (mem_locations_of_mem_siblings hsibling) before)
    · exact .inl hnone
    · exact absurd hmem hleft
  others := by
    intro location hlocation
    rcases h location with heq | hfolder | ⟨hsibling, -⟩
    · exact .inl heq
    · exact .inr hfolder
    · exact absurd hsibling hlocation

/-- What staging leaves is ready to be committed. -/
theorem Staging.waiting (h : Staging outputs done before middle) (hall : Independent before outputs)
    (hdone : ∀ o ∈ done, o ∈ outputs) : ∀ o ∈ done, o.Waiting middle := by
  intro o ho
  have hdestination := h.item?_destination hall hdone (hdone o ho)
  exact ⟨h.ready o ho, ⟨_, h.staging o ho, Item.written_ne_directory _ _⟩,
    fun hnames => (h.destination o ho hnames).congr hdestination⟩

/-- A commit adds no more to staging than what it makes of the staged outputs. -/
theorem Staging.grownAway (h : Staging outputs done before middle)
    (hchanges : ChangesOnly done middle after) :
    GrownAway outputs (done.flatMap locations) before after := by
  intro location hlocation
  have hapart : ∀ o ∈ done, location ∉ o.locations := fun o ho hmem =>
    hlocation (List.mem_flatMap.mpr ⟨o, ho, hmem⟩)
  have hnot : location ∉ done.map Output.staging := by
    intro hstaging
    obtain ⟨o, ho, rfl⟩ := List.mem_map.mp hstaging
    exact hapart o ho o.staging_mem
  have heq := hchanges location hapart
  simpa only [NewFolder, heq] using h.others location hnot

/-- Giving up what has been staged undoes staging as well. -/
theorem Staging.undone (h : Staging outputs done before middle) (hall : Independent before outputs)
    (hdone : ∀ o ∈ done, o ∈ outputs) (hgivenUp : ∀ o ∈ done, o.IsGivenUp middle after)
    (hchanges : ChangesOnly done middle after) : Undone outputs [] before after := by
  intro location
  by_cases hmem : location ∈ done.flatMap locations
  · obtain ⟨o, ho, hlocation⟩ := List.mem_flatMap.mp hmem
    have hsibling : location ∈ o.siblings → location ∈ outputs.flatMap Output.siblings :=
      fun hsibling => List.mem_flatMap.mpr ⟨o, hdone o ho, hsibling⟩
    rcases mem_locations.mp hlocation with rfl | rfl | rfl
    · exact .inl ((hgivenUp o ho).destination.trans (h.item?_destination hall hdone (hdone o ho)))
    · exact .inr (.inr ⟨hsibling (mem_siblings.mpr (.inl rfl)), .inl (hgivenUp o ho).staging⟩)
    · rcases (hgivenUp o ho).backup with hnone | heq
      · exact .inr (.inr ⟨hsibling (mem_siblings.mpr (.inr rfl)), .inl hnone⟩)
      · exact .inl (heq.trans (h.item?_eq hall hdone (hdone o ho) o.backup_mem
          fun _ => backup_ne_staging (hall.plain o (hdone o ho))))
  · exact (h.grownAway hchanges location hmem).imp_right .inl

/-- The stale outputs have all been staged and committed. -/
structure Committed (faults : Faults) (outputs : List Output) (before middle after : FileTree) :
    Prop where
  staging : Staging outputs (stale before outputs) before middle
  committed : ∀ o ∈ stale before outputs, o.Replaceable middle ∧
    (o.contents after).IsCommitted faults o middle
  changesOnly : ChangesOnly (stale before outputs) middle after

/-- Writing succeeds and every stale output has been committed, or it fails. It is then undone, if
everything can be. -/
theorem on_writeAll (faults : Faults) (hall : Independent before outputs) :
    let outcome := (writeAll outputs : OnDisk faults WriteReport).on before
    (∃ failure, outcome.1.result = .error failure ∧ (SparesUndoing faults →
      ∃ left, Undone outputs left before outcome.2 ∧
        Leftover faults outputs failure.path outcome.2 left)) ∨
    (outcome.1.result = .ok (outputs.map fun o => (o.path, o.status before)) ∧
      ∃ middle, Committed faults outputs before middle outcome.2) := by
  have hstage := on_stageAll faults hall (fun o (ho : o ∈ [] ++ outputs) => ho) hall.separated
    (.nil outputs before)
  simp only [List.nil_append, List.map_nil] at hstage
  simp only [writeAll, on_bind]
  rcases hstage with ⟨hok, hstaging⟩ | ⟨failure, hfailure, hundone⟩
  · simp only [hok, on_bind, on_pure]
    have hwaiting := hstaging.waiting hall stale_subset
    have hcommit := on_commit faults (.nil hwaiting) hwaiting
      (hall.separated.sublist List.filter_sublist)
    simp only [List.nil_append, List.map_nil] at hcommit
    rcases hcommit with ⟨hdone, hcommitted, hchanges⟩ | ⟨⟨failure, hfailure⟩, hgivenUp⟩
    · exact .inr ⟨by rw [hdone]; rfl, _, hstaging, hcommitted, hchanges⟩
    · refine .inl ⟨failure, by rw [hfailure]; rfl, fun hspares => ⟨[], ?_, .inl rfl⟩⟩
      obtain ⟨hgivenUp, hchanges⟩ := hgivenUp hspares
      exact hstaging.undone hall stale_subset hgivenUp hchanges
  · simp only [hfailure, on_pure]
    exact .inl ⟨failure, rfl, hundone⟩

/-- An attempt that fails leaves nothing but new directories and a staged file whose writing was cut
short. -/
theorem writeAll_rolledBack (hspares : SparesUndoing faults) (hall : Independent before outputs)
    (hfailed :
      ((writeAll outputs : OnDisk faults WriteReport).on before).1.result = .error failure) :
    let after := ((writeAll outputs : OnDisk faults WriteReport).on before).2
    ∃ left, RolledBack outputs left before after ∧
      Leftover faults outputs failure.path after left := by
  rcases on_writeAll faults hall with ⟨failure', hfailure, hundone⟩ | ⟨hok, -⟩
  · obtain rfl := Except.error.inj (hfailure.symm.trans hfailed)
    obtain ⟨left, hundone, hleft⟩ := hundone hspares
    exact ⟨left, .of_undone hall hundone, hleft⟩
  · simp [hok] at hfailed

/-- Two outputs that lie in one directory. -/
def pairOfOutputs : List Output :=
  [⟨⟨"src/first.rs"⟩, "first"⟩, ⟨⟨"src/second.rs"⟩, "second"⟩]

/-- Both outputs hold an older text. -/
def outdatedPair : FileTree :=
  ⟨[("src", .directory [("first.rs", .file "old".toUTF8), ("second.rs", .file "older".toUTF8)])]⟩

/-- A disk that does not move the second staged file to its destination. -/
def refusesSecond : Faults := fun _ operation =>
  match operation with
  | .rename old _ =>
    if old = ⟨"src/second.rs.astgen-tmp"⟩ then
      some ⟨.other "Input/output error (os error 5)", none⟩
    else none
  | _ => none

theorem refusesSecond_sparesUndoing : SparesUndoing refusesSecond where
  remove _ _ := rfl
  putBack _ destination := by
    refine if_neg fun heq => ?_
    have hlast := congrArg (fun path : Path => path.text.toList.getLast?) heq
    simp [backupPath, Path.sibling, backupSuffix] at hlast

theorem refusesSecond_writesWhole : WritesWhole refusesSecond := by
  simp [WritesWhole, refusesSecond]

/-- The first output has been replaced and the second moved aside when the failure comes. -/
theorem refusesSecond_rolledBack :
    SparesUndoing refusesSecond ∧ Independent outdatedPair pairOfOutputs ∧
      ((writeAll pairOfOutputs : OnDisk refusesSecond WriteReport).on outdatedPair).1.result =
        .error ⟨⟨"src/second.rs"⟩, .other "Input/output error (os error 5)"⟩ ∧
      RolledBack pairOfOutputs [] outdatedPair
        ((writeAll pairOfOutputs : OnDisk refusesSecond WriteReport).on outdatedPair).2 := by
  have hindependent : Independent outdatedPair pairOfOutputs := by decide +kernel
  have hfailed :
      ((writeAll pairOfOutputs : OnDisk refusesSecond WriteReport).on outdatedPair).1.result =
        .error ⟨⟨"src/second.rs"⟩, .other "Input/output error (os error 5)"⟩ := by
    decide +kernel
  obtain ⟨left, hback, hleft⟩ :=
    writeAll_rolledBack refusesSecond_sparesUndoing hindependent hfailed
  obtain rfl := hleft.eq_nil refusesSecond_writesWhole
  exact ⟨refusesSecond_sparesUndoing, hindependent, hfailed, hback⟩

/-- A disk that is full: a file can be made, but nothing can be written to it. -/
def fullDisk : Faults := fun _ operation =>
  match operation with
  | .write .. => some ⟨.other "No space left on device (os error 28)", some 0⟩
  | _ => none

/-- A full disk keeps the staged file whose writing it has cut short. -/
theorem not_rolledBack_of_cutShort :
    ¬ ∀ (faults : Faults) (outputs : List Output) (before : FileTree) (failure : WriteFailure),
      SparesUndoing faults → Independent before outputs →
      ((writeAll outputs : OnDisk faults WriteReport).on before).1.result = .error failure →
      RolledBack outputs [] before
        ((writeAll outputs : OnDisk faults WriteReport).on before).2 := by
  intro h
  have hback := h fullDisk [⟨⟨"x.rs"⟩, "text"⟩] .empty
    ⟨⟨"x.rs"⟩, .other "No space left on device (os error 28)"⟩
    ⟨fun _ _ => rfl, fun _ _ => rfl⟩ (by decide +kernel) (by decide +kernel)
  have hgone := hback.siblings _ List.mem_cons_self ["x.rs.astgen-tmp"]
    (by decide +kernel) List.not_mem_nil
  rw [FileTree.item?_empty (by simp), or_self] at hgone
  exact absurd (congrArg Option.isSome hgone) (by decide +kernel)

end TreeTypes.Output
