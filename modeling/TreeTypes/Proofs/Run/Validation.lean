import TreeTypes.Proofs.Files.SamePath
import TreeTypes.Proofs.Text.Words
import TreeTypes.Run.Config

/-!
# Valid configurations

Validation goes through the targets with the outputs seen so far, and then looks at the policy. It
accepts a configuration when no two outputs are respellings of one path, which is a property of all
pairs. Reading the paths from another directory may make outputs the same that were not, but it
never makes them differ.
-/

namespace TreeTypes.RunConfig

variable {config : RunConfig} {target : Target} {seen : List Path} {rest targets : List Target}

/-- What is asked of a configuration. -/
structure Valid (config : RunConfig) : Prop where
  requested : config.targets ≠ []
  named : ∀ target ∈ config.targets, ¬ Text.Blank target.name.toList
  distinct : config.targets.Pairwise fun first later =>
    ¬ Path.Respelled first.output later.output
  supported : config.strategy.supports config.effectivePolicy = true

theorem checkTargets_cons_eq_ok_iff : checkTargets seen (target :: rest) = .ok () ↔
    ¬ Text.Blank target.name.toList ∧ (∀ output ∈ seen, ¬ output.Same target.output) ∧
      checkTargets (target.output :: seen) rest = .ok () := by
  have hblank : (Text.trim target.name.toList).isEmpty = true ↔
      Text.Blank target.name.toList := by
    rw [List.isEmpty_iff, ← Text.trims_iff, Text.trims_nil_iff]
  have hseen : (seen.any fun output => decide (output.Same target.output)) = true ↔
      ¬ ∀ output ∈ seen, ¬ output.Same target.output := by
    simp
  rw [checkTargets]
  split
  case isTrue hempty => simp [hblank.mp hempty]
  case isFalse hempty =>
    split
    case isTrue hshared => simp [hseen.mp hshared]
    case isFalse hshared =>
      rw [hblank] at hempty
      rw [hseen, not_not] at hshared
      exact ⟨fun hrest => ⟨hempty, hshared, hrest⟩, fun h => h.2.2⟩

theorem checkTargets_eq_ok_iff : checkTargets seen targets = .ok () ↔
    (∀ target ∈ targets, ¬ Text.Blank target.name.toList) ∧
      targets.Pairwise (fun first later => ¬ first.output.Same later.output) ∧
      ∀ output ∈ seen, ∀ target ∈ targets, ¬ output.Same target.output := by
  induction targets generalizing seen with
  | nil => simp [checkTargets]
  | cons target rest ih =>
    rw [checkTargets_cons_eq_ok_iff, ih, List.forall_mem_cons, List.pairwise_cons]
    simp only [List.forall_mem_cons, forall_and]
    constructor
    · rintro ⟨hname, hfirst, hnames, hpairwise, htarget, hseen⟩
      exact ⟨⟨hname, hnames⟩, ⟨htarget, hpairwise⟩, hfirst, hseen⟩
    · rintro ⟨⟨hname, hnames⟩, ⟨htarget, hpairwise⟩, hfirst, hseen⟩
      exact ⟨hname, hfirst, hnames, hpairwise, htarget, hseen⟩

theorem validate_eq_ok_iff_checks : config.validate = .ok () ↔
    config.targets ≠ [] ∧ checkTargets [] config.targets = .ok () ∧
      config.strategy.supports config.effectivePolicy = true := by
  unfold validate
  by_cases hnone : config.targets = []
  · simp [hnone, bind, Except.bind, throw, throwThe, MonadExceptOf.throw]
  · have hsome : config.targets.isEmpty = false := by simpa using hnone
    cases checkTargets [] config.targets with
    | error fault => simp [hsome, bind, Except.bind]
    | ok _ =>
      cases config.strategy.supports config.effectivePolicy <;>
        simp [hsome, hnone, bind, Except.bind, pure, Except.pure, throw, throwThe,
          MonadExceptOf.throw]

theorem validate_eq_ok_iff : config.validate = .ok () ↔ config.Valid := by
  simp only [validate_eq_ok_iff_checks, checkTargets_eq_ok_iff, Path.same_iff_respelled,
    List.not_mem_nil, false_imp_iff, implies_true, and_true]
  constructor
  · rintro ⟨hrequested, ⟨hnamed, hdistinct⟩, hsupported⟩
    exact ⟨hrequested, hnamed, hdistinct, hsupported⟩
  · rintro ⟨hrequested, hnamed, hdistinct, hsupported⟩
    exact ⟨hrequested, ⟨hnamed, hdistinct⟩, hsupported⟩

/-- Outputs that are respellings of one path are so below any directory. -/
theorem Valid.of_resolvePaths {base : Path} (h : (config.resolvePaths base).Valid) :
    config.Valid := by
  obtain ⟨hrequested, hnamed, hdistinct, hsupported⟩ := h
  simp only [resolvePaths, ne_eq, List.map_eq_nil_iff, List.forall_mem_map, List.pairwise_map]
    at hrequested hnamed hdistinct
  exact ⟨hrequested, hnamed, hdistinct.imp fun hne hrespelled => hne (hrespelled.join base),
    hsupported⟩

/-- A configuration is accepted when it is valid, and it is so when it is accepted with its paths
read from some directory. -/
theorem resolvePaths_hides_nothing (config : RunConfig) (base : Path) :
    (config.validate = .ok () ↔ config.Valid) ∧
      ((config.resolvePaths base).validate = .ok () → config.validate = .ok ()) := by
  refine ⟨validate_eq_ok_iff, fun hresolved => ?_⟩
  have hvalid := validate_eq_ok_iff.mp hresolved
  exact validate_eq_ok_iff.mpr hvalid.of_resolvePaths

/-- The outputs of two families, one of them spelled with slashes and dots to spare. -/
def spelledApart : RunConfig where
  schema := ⟨"schema.json"⟩
  targets := [{ name := "A", output := ⟨"./src//a.rs"⟩ }, { name := "B", output := ⟨"src/./b.rs"⟩ }]

theorem spelledApart_hides_nothing :
    (spelledApart.resolvePaths ⟨"/work/."⟩).validate = .ok () ∧ spelledApart.validate = .ok () := by
  have hresolved : (spelledApart.resolvePaths ⟨"/work/."⟩).validate = .ok () := by decide +kernel
  exact ⟨hresolved, (resolvePaths_hides_nothing spelledApart ⟨"/work/."⟩).2 hresolved⟩

end TreeTypes.RunConfig
