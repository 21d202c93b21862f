import TreeTypes.CommandLine.Commands
import TreeTypes.Proofs.Files.Kept
import TreeTypes.Proofs.Files.OnDisk
import TreeTypes.Proofs.Run.Validation

/-!
# Configurations that flags change

The configuration of a run is that of its file with the flags applied, and it has to be valid. The
file has to be valid before that, too. Flags change nothing but the policy and the strategy among
what is looked at, so the two differ where only the flags make the strategy and the policy of a file
fit together: such a file is refused, although its configuration would be accepted.
-/

namespace TreeTypes.CommandLine

open OnDisk FileAccess

variable {tree : FileTree} {environment : List (String × String)} {path : Path}
variable {config file result : RunConfig} {overrides : Overrides} {run : RunArguments}

@[simp] theorem Overrides.apply_targets (overrides : Overrides) (config : RunConfig) :
    (overrides.apply config).targets = config.targets := rfl

/-- Of a configuration that flags make valid only the policy may be amiss. -/
theorem Overrides.valid_iff_of_apply (h : (overrides.apply config).Valid) :
    config.Valid ↔ config.strategy.supports config.effectivePolicy = true := by
  obtain ⟨hrequested, hnamed, hdistinct, -⟩ := h
  exact ⟨fun hvalid => hvalid.supported, fun hsupported =>
    ⟨hrequested, hnamed, hdistinct, hsupported⟩⟩

/-- The configuration file that a source names on a tree. -/
inductive ConfigSource.Names (tree : FileTree) : ConfigSource → Path → Prop
  | file (path : Path) : Names tree (.file path) path
  | default : (tree.itemAt true defaultConfig).toBool = true →
      Names tree .default defaultConfig

theorem on_loadConfig_eq_ok_iff
    (hread : ((RunConfig.readFrom path environment : OnDisk .never _).on tree).1 = .ok config) :
    ((loadConfig path environment : OnDisk .never _).on tree).1 = .ok file ↔
      file = config.relativeToFile path ∧ (config.relativeToFile path).validate = .ok () := by
  simp only [loadConfig, RunConfig.load, on_bind, hread, on_pure]
  cases (config.relativeToFile path).validate <;> simp [Except.mapError, eq_comm]

theorem ConfigSource.Names.on_config {source : ConfigSource} (h : source.Names tree path) :
    ((source.config environment : OnDisk .never _).on tree).1 =
      ((loadConfig path environment : OnDisk .never _).on tree).1 := by
  cases h with
  | file path => rfl
  | default hexists => simp [ConfigSource.config, on_pathExists, hexists]

/-- The configuration of a file, its paths read from the directory of the file, with the flags of a
run applied. -/
def RunArguments.merged (run : RunArguments) (path : Path) (config : RunConfig) : RunConfig :=
  run.overrides.apply (config.relativeToFile path)

theorem on_config_eq_ok_iff (hsource : run.source.Names tree path)
    (hread : ((RunConfig.readFrom path environment : OnDisk .never _).on tree).1 = .ok config) :
    ((run.config environment : OnDisk .never _).on tree).1 = .ok result ↔
      (config.relativeToFile path).validate = .ok () ∧ result = run.merged path config ∧
        (run.merged path config).validate = .ok () := by
  have hload : ∀ file, ((loadConfig path environment : OnDisk .never _).on tree).1 = .ok file ↔ _ :=
    fun _ => on_loadConfig_eq_ok_iff hread
  simp only [RunArguments.config, on_bind, hsource.on_config]
  cases hloaded : ((loadConfig path environment : OnDisk .never _).on tree).1 with
  | error failure =>
    have hrefused : (config.relativeToFile path).validate ≠ .ok () := fun hvalid => by
      simpa [hloaded] using (hload _).mpr ⟨rfl, hvalid⟩
    simp [hrefused]
  | ok file =>
    obtain ⟨rfl, hvalid⟩ := (hload file).mp hloaded
    simp only [on_pure, hvalid, true_and, RunArguments.merged]
    cases (run.overrides.apply (config.relativeToFile path)).validate <;> simp [eq_comm]

theorem relativeToFile_supports (config : RunConfig) (path : Path) :
    (config.relativeToFile path).strategy.supports (config.relativeToFile path).effectivePolicy =
      config.strategy.supports config.effectivePolicy := by
  unfold RunConfig.relativeToFile
  split <;> rfl

/-- A run has the configuration of its file with the flags applied if that is valid and the policy
of the file fits its strategy before the flags are applied. So a run is judged on the merged
configuration except where only the flags make policy and strategy fit. -/
theorem config_judged_iff (hsource : run.source.Names tree path)
    (hread : ((RunConfig.readFrom path environment : OnDisk .never _).on tree).1 = .ok config) :
    let outcome := ((run.config environment : OnDisk .never _).on tree).1
    let accepted := (run.merged path config).validate = .ok ()
    let fits := config.strategy.supports config.effectivePolicy = true
    (∀ result, outcome = .ok result ↔ result = run.merged path config ∧ accepted ∧ fits) ∧
      ((∀ result, outcome = .ok result ↔ result = run.merged path config ∧ accepted) ↔
        (accepted → fits)) := by
  intro outcome accepted fits
  have hfile : accepted → ((config.relativeToFile path).validate = .ok () ↔ fits) := by
    intro haccepted
    have hmerged := RunConfig.validate_eq_ok_iff.mp haccepted
    rw [RunConfig.validate_eq_ok_iff, Overrides.valid_iff_of_apply hmerged,
      relativeToFile_supports]
  have houtcome : ∀ result, outcome = .ok result ↔
      result = run.merged path config ∧ accepted ∧ fits := by
    intro result
    rw [on_config_eq_ok_iff hsource hread]
    constructor
    · rintro ⟨hvalid, hresult, haccepted⟩
      exact ⟨hresult, haccepted, (hfile haccepted).mp hvalid⟩
    · rintro ⟨hresult, haccepted, hfits⟩
      exact ⟨(hfile haccepted).mpr hfits, hresult, haccepted⟩
  refine ⟨houtcome, ?_⟩
  constructor
  · intro hlaw haccepted
    have hmerged := (hlaw (run.merged path config)).mpr ⟨rfl, haccepted⟩
    exact ((houtcome _).mp hmerged).2.2
  · intro hfits result
    rw [houtcome]
    exact ⟨fun h => ⟨h.1, h.2.1⟩, fun h => ⟨h.1, h.2, hfits h.2⟩⟩

/-- The text of a configuration file with the given settings and one target. -/
def configText (settings : String) : String :=
  "schema = \"s.json\"\n" ++ settings ++ "[[families]]\nname = \"Expr\"\noutput = \"x.rs\"\n"

/-- There is nothing but a configuration file. -/
def configHolding (settings : String) : FileTree :=
  ⟨[("astgen.toml", .file (configText settings).toUTF8)]⟩

theorem on_readFrom_configHolding {settings : String}
    (h : RunConfig.ofTexts "astgen.toml" (configText settings) [] = .ok config) :
    ((RunConfig.readFrom defaultConfig [] : OnDisk .never _).on (configHolding settings)).1 =
      .ok config := by
  have hread : (configHolding settings).readText defaultConfig = .ok (configText settings) :=
    FileTree.readText_of_found ["astgen.toml"] rfl rfl
  have hfile : (RunConfig.findFile defaultConfig : OnDisk .never _).on (configHolding settings) =
      (some defaultConfig, configHolding settings) := by
    rfl
  simp only [RunConfig.readFrom, on_bind, hfile, on_readText, hread, on_pure]
  exact h

theorem names_configHolding (settings : String) :
    ConfigSource.Names (configHolding settings) .default defaultConfig :=
  .default rfl

/-- What the text of a configuration file with one target and a policy says. -/
def singleTarget (policy : Policy) : RunConfig where
  schema := ⟨"s.json"⟩
  policy := some policy
  targets := [{ name := "Expr", output := ⟨"x.rs"⟩ }]

/-- A run of the configuration file in the current directory. -/
def runWith (overrides : Overrides) : RunArguments := ⟨.default, overrides⟩

theorem valuePolicy_judged :
    (((runWith { policy := some .shared, noDocs := true }).config [] : OnDisk .never _).on
      (configHolding "policy = \"value\"\n")).1 =
        .ok { singleTarget .shared with options := { docs := false } } := by
  have htext : RunConfig.ofTexts "astgen.toml" (configText "policy = \"value\"\n") [] =
      .ok (singleTarget .value) := by decide +kernel
  have hsource : (runWith { policy := some .shared, noDocs := true }).source.Names
      (configHolding "policy = \"value\"\n") defaultConfig := names_configHolding _
  have hjudged := config_judged_iff hsource (on_readFrom_configHolding htext)
  exact (hjudged.1 _).mpr ⟨by decide +kernel, by decide +kernel, by decide +kernel⟩

/-- With the flags the strategy is the open one, which the policy of the file fits. -/
theorem not_config_judged :
    ¬ ∀ (tree : FileTree) (path : Path) (environment : List (String × String))
        (config : RunConfig) (run : RunArguments), run.source.Names tree path →
      ((RunConfig.readFrom path environment : OnDisk .never _).on tree).1 = .ok config →
      ∀ result, ((run.config environment : OnDisk .never _).on tree).1 = .ok result ↔
        result = run.merged path config ∧ (run.merged path config).validate = .ok () := by
  intro h
  have htext : RunConfig.ofTexts "astgen.toml" (configText "policy = \"owned\"\n") [] =
      .ok (singleTarget .owned) := by decide +kernel
  have hread := on_readFrom_configHolding htext
  have hsource : (runWith { strategy := some .openPolymorphic }).source.Names
      (configHolding "policy = \"owned\"\n") defaultConfig := names_configHolding _
  have haccepted : ((runWith { strategy := some .openPolymorphic }).merged defaultConfig
      (singleTarget .owned)).validate = .ok () := by decide +kernel
  have hmerged := (h _ _ [] _ _ hsource hread _).mpr ⟨rfl, haccepted⟩
  have hvalid := ((on_config_eq_ok_iff hsource hread).mp hmerged).1
  have hrefused : ((singleTarget .owned).relativeToFile defaultConfig).validate =
      .error (.unsupportedPolicy ⟨.closedUnion, .owned⟩) := by decide +kernel
  simp [hrefused] at hvalid

end TreeTypes.CommandLine
