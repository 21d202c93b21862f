import TreeTypes.Proofs.Files.Kept
import TreeTypes.Proofs.Output.Written

/-!
# Writing again

A success leaves all directories and links of the tree, and every output up to date unless a special
file stood at a staging location. Writing the same outputs once more then finds nothing to do.
-/

namespace TreeTypes.Output

-- As for staging, items are compared as they are.
attribute [local irreducible] FileTree.item?

open OnDisk FileTree

variable {faults : Faults} {output : Output} {outputs : List Output} {location : Location}
variable {before middle after tree : FileTree}

/-- Outputs that are up to date are left alone. -/
theorem on_writeAll_of_upToDate (hfresh : ∀ o ∈ outputs, o.upToDate tree = true) :
    (writeAll outputs : OnDisk faults WriteReport).on tree =
      (⟨.ok (outputs.map fun o => (o.path, .unchanged)), []⟩, tree) := by
  have hstage : (stageAll [] outputs : OnDisk faults _).on tree =
      (.ok ([], outputs.map fun o => (o.path, .unchanged)), tree) := by
    induction outputs with
    | nil => simp [stageAll]
    | cons output rest ih =>
      obtain ⟨hfirst, hrest⟩ := List.forall_mem_cons.mp hfresh
      simp only [stageAll, on_bind, on_isUpToDate, hfirst, ↓reduceIte, ih hrest, on_pure]
      rfl
  simp only [writeAll, on_bind, hstage, commit, dropBackups, List.reverse_nil, on_pure]
  rfl

namespace Committed

/-- What a success does to an item. -/
theorem item?_cases (h : Committed faults outputs before middle after)
    (hall : Independent before outputs) (location : Location) :
    after.item? location = before.item? location ∨ NewFolder outputs before after location ∨
      (before.Writable location ∧ after.Writable location) := by
  by_cases hmem : location ∈ (stale before outputs).flatMap locations
  · obtain ⟨o, ho, hlocation⟩ := List.mem_flatMap.mp hmem
    obtain ⟨hreplaceable, hcommitted⟩ := h.committed o ho
    have houtput := stale_subset o ho
    rcases mem_locations.mp hlocation with rfl | rfl | rfl
    · have hfree := h.staging.destination o ho hreplaceable.names
      have hstaged : after.item? o.destination = _ := h.destination_of_stale ho
      exact .inr (.inr ⟨hfree.writable, .of_written hstaged⟩)
    · exact .inr (.inr ⟨h.staging.writable o ho, .of_none hcommitted.staging⟩)
    · have hmiddle := h.staging.item?_eq hall stale_subset houtput o.backup_mem
        fun _ => backup_ne_staging (hall.plain o houtput)
      have hbefore : middle.item? o.destination ≠ none → before.Writable o.backup := fun hfound =>
        ⟨hmiddle ▸ hreplaceable.backup hfound,
          hall.noLink o houtput _ o.backup_mem o.backup List.prefix_rfl⟩
      rcases hcommitted.backup with ⟨hfound, hnone⟩ | ⟨-, hsame⟩ | ⟨hfound, -, hkept⟩
      · exact .inr (.inr ⟨hbefore hfound, .of_none hnone⟩)
      · exact .inl (hsame.trans hmiddle)
      · have hold := h.staging.item?_destination hall stale_subset houtput
        have hfree := h.staging.destination o ho hreplaceable.names
        refine .inr (.inr ⟨hbefore hfound, ?_⟩)
        rw [Writable, hkept.trans hold]
        exact hfree.writable
  · exact (h.staging.grownAway h.changesOnly location hmem).imp_right .inl

theorem keeps (h : Committed faults outputs before middle after)
    (hall : Independent before outputs) :
    before.Keeps after where
  directory location hdirectory := by
    rcases h.item?_cases hall location with heq | ⟨hnone, -⟩ | ⟨hwritable, -⟩
    · exact heq.trans hdirectory
    · simp [hnone] at hdirectory
    · exact absurd hdirectory hwritable.1
  link location target hlink := by
    rcases h.item?_cases hall location with heq | ⟨hnone, -⟩ | ⟨hwritable, -⟩
    · exact heq.trans hlink
    · simp [hnone] at hlink
    · exact absurd hlink (hwritable.2 target)

theorem noLinkTo (h : Committed faults outputs before middle after)
    (hall : Independent before outputs) (hlink : before.NoLinkTo location) :
    after.NoLinkTo location := by
  intro above habove target htarget
  rcases h.item?_cases hall above with heq | ⟨-, hdirectory, -⟩ | ⟨-, hwritable⟩
  · exact hlink above habove target (heq ▸ htarget)
  · simp [hdirectory] at htarget
  · exact absurd htarget (hwritable.2 target)

theorem independent_after (h : Committed faults outputs before middle after)
    (hall : Independent before outputs) : Independent after outputs :=
  ⟨hall.plain, fun o ho location hlocation => h.noLinkTo hall (hall.noLink o ho location hlocation),
    hall.separated⟩

/-- An output is up to date afterwards if no special file stood at its staging location. -/
theorem upToDate_after (h : Committed faults outputs before middle after)
    (hall : Independent before outputs) (houtput : output ∈ outputs)
    (hspecial : before.isSpecial output.staging = false) : output.upToDate after = true :=
  ((h.independent_after hall).upToDate_iff houtput).mpr
    ⟨h.fits hall houtput, h.holds hall houtput hspecial⟩

end Committed

end TreeTypes.Output
