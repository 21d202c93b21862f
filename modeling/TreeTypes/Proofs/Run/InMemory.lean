import TreeTypes.Proofs.Grammar.Clashes
import TreeTypes.Proofs.Run.AllOrNothing

/-!
# Rendering and generating in memory

A grammar generates in memory once all families of a schema have been read, whereas a run reads
only the families that its targets name. Both look up, read and generate a target in the same way.
They agree on a schema whose families can all be read, and every run agrees with the grammar of the
families it names. They differ on a schema in which a family that no target names cannot be read.
-/

namespace TreeTypes

open OnDisk FileAccess

variable {config : RunConfig} {schema : Schema} {grammar : Grammar} {target : Target}
variable {targets : List Target} {tree : FileTree} {rendered : List RenderedFamily}
variable {names : List String} {name : String} {family : Family} {raw : RawFamily}

theorem RawFamily.read_eq_ok_iff :
    raw.read.result = .ok family ↔ Family.parse raw.name raw.entries = .ok family := by
  simp only [RawFamily.read, Traced.result_bind_eq_ok_iff, Traced.result_ofExcept,
    Traced.result_log, Traced.result_pure]
  cases Family.parse raw.name raw.entries <;> simp [Except.mapError]

theorem RawFamily.name_of_read (h : raw.read.result = .ok family) :
    family.name = raw.name :=
  (Family.parse_eq_ok_iff.mp (RawFamily.read_eq_ok_iff.mp h)).1

theorem RawFamily.readAll_eq_ok_iff {raws : List RawFamily} {families : List Family} :
    (RawFamily.readAll raws).result = .ok families ↔
      List.Forall₂ (fun raw family => raw.read.result = .ok family) raws families := by
  induction raws generalizing families with
  | nil => simp [readAll, eq_comm]
  | cons raw rest ih =>
    simp only [readAll, Traced.result_bind_eq_ok_iff, Traced.result_pure, Except.ok.injEq, ih,
      List.forall₂_cons_left_iff]
    constructor
    · rintro ⟨family, hfamily, families, hfamilies, rfl⟩
      exact ⟨family, families, hfamily, hfamilies, rfl⟩
    · rintro ⟨family, families, hfamily, hfamilies, rfl⟩
      exact ⟨family, hfamily, families, hfamilies, rfl⟩

namespace Grammar

theorem ofSchema_eq_ok_iff : (ofSchema schema).result = .ok grammar ↔
    List.Forall₂ (fun raw family => raw.read.result = .ok family) schema.families
      grammar.families := by
  obtain ⟨families⟩ := grammar
  simp only [ofSchema, Traced.result_bind_eq_ok_iff, Traced.result_pure, Except.ok.injEq,
    RawFamily.readAll_eq_ok_iff, mk.injEq, exists_eq_right]

/-- All families can be read if each can be. -/
theorem exists_ofSchema_of_forall
    (h : ∀ raw ∈ schema.families, ∃ family, raw.read.result = .ok family) :
    ∃ grammar, (ofSchema schema).result = .ok grammar := by
  have : Nonempty Family := ⟨⟨"", []⟩⟩
  choose! read hread using h
  refine ⟨⟨schema.families.map read⟩, ofSchema_eq_ok_iff.mpr ?_⟩
  rw [List.forall₂_map_right_iff, List.forall₂_same]
  exact hread

/-- Looking up a family that has been read is reading the family that is looked up. -/
theorem family_eq_ok_iff (h : (ofSchema schema).result = .ok grammar) :
    grammar.family name = .ok family ↔
      ∃ raw, schema.family? name = some raw ∧ raw.read.result = .ok family := by
  obtain ⟨raws⟩ := schema
  obtain ⟨families⟩ := grammar
  have hread := ofSchema_eq_ok_iff.mp h
  clear h
  simp only [Schema.family?, Grammar.family] at hread ⊢
  -- Reading keeps names, so both searches stop at the same place.
  induction hread with
  | nil => simp
  | @cons raw first raws families hfirst hread ih =>
    simp only [List.find?_cons, RawFamily.name_of_read hfirst]
    cases raw.name == name with
    | true => simp [hfirst]
    | false => exact ih

end Grammar

namespace RunConfig

/-- Generate a target in memory. -/
def generateTarget (config : RunConfig) (names : List String) (grammar : Grammar)
    (target : Target) : Except Error RenderedFamily := do
  let contents ← (grammar.generate config.generator (config.resolver names) target.preludeLines
    target.name).result
  return ⟨target.name, target.output, contents⟩

theorem generateTarget_eq_ok_iff (h : (Grammar.ofSchema schema).result = .ok grammar)
    {rendered : RenderedFamily} : config.generateTarget names grammar target = .ok rendered ↔
      config.Generates names schema target rendered := by
  constructor
  · intro hrendered
    cases hcontents : (grammar.generate config.generator (config.resolver names)
        target.preludeLines target.name).result with
    | error failure =>
      rw [generateTarget, hcontents] at hrendered
      cases hrendered
    | ok contents =>
      rw [generateTarget, hcontents] at hrendered
      obtain rfl := Except.ok.inj hrendered
      obtain ⟨family, hfamily, hgenerated⟩ := Traced.result_eq_ok_of_bind hcontents
      obtain ⟨raw, hraw, hread⟩ := (Grammar.family_eq_ok_iff h).mp hfamily
      exact ⟨raw, family, contents, hraw, hread, hgenerated, rfl⟩
  · rintro ⟨raw, family, contents, hraw, hread, hgenerated, rfl⟩
    have hcontents : (grammar.generate config.generator (config.resolver names)
        target.preludeLines target.name).result = .ok contents :=
      Traced.result_bind_eq_ok_iff.mpr
        ⟨family, (Grammar.family_eq_ok_iff h).mpr ⟨raw, hraw, hread⟩, hgenerated⟩
    rw [generateTarget, hcontents]
    rfl

theorem on_render_of_load (hvalid : config.validate = .ok ())
    (hload : ((Schema.load config.schema : OnDisk .never _).on tree).1 = .ok schema) :
    ((config.render : OnDisk .never _).on tree).1 = config.renderSchema schema := by
  simp only [render, hvalid, on_bind, hload, on_pure]

theorem render_eq_ok_iff (hvalid : config.validate = .ok ())
    (hload : ((Schema.load config.schema : OnDisk .never _).on tree).1 = .ok schema) :
    ((config.render : OnDisk .never _).on tree).1.result = .ok rendered ↔
      List.Forall₂ (config.Generates schema.familyNames schema) config.targets rendered := by
  rw [on_render_of_load hvalid hload, renderSchema, Traced.result_bind, Traced.result_log]
  exact renderTargets_eq_ok_iff

/-- Read all families of a schema, whose names are given, and generate the targets in memory. -/
def generateAll (config : RunConfig) (names : List String) (schema : Schema) :
    Except Error (List RenderedFamily) := do
  let grammar ← (Grammar.ofSchema schema).result
  config.targets.mapM (config.generateTarget names grammar)

theorem generateAll_eq_ok_iff : config.generateAll names schema = .ok rendered ↔
    (∃ grammar, (Grammar.ofSchema schema).result = .ok grammar) ∧
      List.Forall₂ (config.Generates names schema) config.targets rendered := by
  unfold generateAll
  cases hgrammar : (Grammar.ofSchema schema).result with
  | error failure => simp [bind, Except.bind]
  | ok grammar =>
    simp only [bind, Except.bind, mapM_eq_ok_iff, generateTarget_eq_ok_iff hgrammar]
    simp

/-- The families of a schema that the targets name. -/
def requested (config : RunConfig) (schema : Schema) : Schema :=
  ⟨config.targets.filterMap fun target => schema.family? target.name⟩

theorem family?_name (h : schema.family? name = some raw) : raw.name = name := by
  simpa using List.find?_some h

theorem family?_requested (h : target ∈ config.targets) :
    (config.requested schema).family? target.name = schema.family? target.name := by
  have hfrom : ∀ raw, (config.requested schema).family? target.name = some raw →
      schema.family? target.name = some raw := by
    intro raw hraw
    obtain ⟨other, -, hother⟩ := List.mem_filterMap.mp (List.mem_of_find?_eq_some hraw)
    rwa [← family?_name hraw, family?_name hother]
  refine Option.ext fun raw => ⟨hfrom raw, fun hraw => ?_⟩
  have hmem : raw ∈ (config.requested schema).families := List.mem_filterMap.mpr ⟨target, h, hraw⟩
  cases hfound : (config.requested schema).family? target.name with
  | none =>
    have hother := List.find?_eq_none.mp hfound raw hmem
    simp [family?_name hraw] at hother
  | some found => exact (hfrom found hfound).symm.trans hraw

theorem forall₂_generates_requested :
    List.Forall₂ (config.Generates names (config.requested schema)) config.targets rendered ↔
      List.Forall₂ (config.Generates names schema) config.targets rendered :=
  forall₂_congr_left fun target htarget family => by
    simp only [Generates, family?_requested htarget]

/-- The families that targets are generated from can be read. -/
theorem exists_ofSchema_requested
    (h : List.Forall₂ (config.Generates names schema) config.targets rendered) :
    ∃ grammar, (Grammar.ofSchema (config.requested schema)).result = .ok grammar := by
  refine Grammar.exists_ofSchema_of_forall fun raw hraw => ?_
  obtain ⟨target, htarget, hfound⟩ := List.mem_filterMap.mp hraw
  obtain ⟨_, found, family, _, hother, hread, -⟩ := exists_of_forall₂_of_mem h htarget
  obtain rfl := Option.some.inj (hfound.symm.trans hother)
  exact ⟨family, hread⟩

/-- Generating in memory succeeds where all families of the schema can be read and the run renders,
and gives what is rendered. With the families that the targets name it succeeds where the run
renders. -/
theorem render_agrees (config : RunConfig) (tree : FileTree) (schema : Schema)
    (hvalid : config.validate = .ok ())
    (hload : ((Schema.load config.schema : OnDisk .never _).on tree).1 = .ok schema)
    (rendered : List RenderedFamily) :
    (config.generateAll schema.familyNames schema = .ok rendered ↔
      (∃ grammar, (Grammar.ofSchema schema).result = .ok grammar) ∧
        ((config.render : OnDisk .never _).on tree).1.result = .ok rendered) ∧
    (config.generateAll schema.familyNames (config.requested schema) = .ok rendered ↔
      ((config.render : OnDisk .never _).on tree).1.result = .ok rendered) := by
  rw [render_eq_ok_iff hvalid hload, generateAll_eq_ok_iff, generateAll_eq_ok_iff,
    forall₂_generates_requested]
  exact ⟨Iff.rfl, and_iff_right_of_imp exists_ofSchema_requested⟩

theorem exists_of_isOk {ε α : Type} {x : Except ε α} (h : x.isOk = true) : ∃ a, x = .ok a := by
  cases x with
  | error failure => cases h
  | ok a => exact ⟨a, rfl⟩

/-- A run that generates the family `A` and no other. -/
def firstOnly : RunConfig where
  schema := ⟨"schema.json"⟩
  targets := [{ name := "A", output := ⟨"a.rs"⟩ }]

/-- There is nothing but a schema. -/
def schemaHolding (text : String) : FileTree :=
  ⟨[("schema.json", .file text.toUTF8)]⟩

theorem on_load_firstOnly {text : String} (h : Schema.parse "schema.json" text = .ok schema) :
    ((Schema.load firstOnly.schema : OnDisk .never _).on (schemaHolding text)).1 = .ok schema := by
  have hread : (schemaHolding text).readText firstOnly.schema = .ok text :=
    FileTree.readText_of_found ["schema.json"] rfl rfl
  simp only [Schema.load, on_bind, on_readText, hread, on_pure]
  exact h

theorem firstOnly_agrees : ∃ rendered,
    firstOnly.generateAll ["A", "B"] ⟨[⟨"A", []⟩, ⟨"B", []⟩]⟩ = .ok rendered ∧
      ((firstOnly.render : OnDisk .never _).on (schemaHolding twoFamiliesText)).1.result =
        .ok rendered := by
  have hvalid : firstOnly.validate = .ok () := by decide +kernel
  have hparse : Schema.parse "schema.json" twoFamiliesText =
      .ok ⟨[⟨"A", []⟩, ⟨"B", []⟩]⟩ := by decide +kernel
  obtain ⟨rendered, hgenerated⟩ : ∃ rendered,
      firstOnly.generateAll ["A", "B"] ⟨[⟨"A", []⟩, ⟨"B", []⟩]⟩ = .ok rendered :=
    exists_of_isOk (by decide +kernel)
  have hagrees := render_agrees firstOnly _ _ hvalid (on_load_firstOnly hparse) rendered
  exact ⟨rendered, hgenerated, (hagrees.1.mp hgenerated).2⟩

/-- The second family has an entry that cannot be read. -/
def unreadableText : String := "\x7b\"A\": [], \"B\": [\"bad\"]\x7d"

theorem not_agrees_of_valid :
    ¬ ∀ (config : RunConfig) (tree : FileTree) (schema : Schema), config.validate = .ok () →
      ((Schema.load config.schema : OnDisk .never _).on tree).1 = .ok schema →
      ((∃ rendered, ((config.render : OnDisk .never _).on tree).1.result = .ok rendered) ↔
        ∃ rendered, config.generateAll schema.familyNames schema = .ok rendered) := by
  intro h
  have hvalid : firstOnly.validate = .ok () := by decide +kernel
  have hparse : Schema.parse "schema.json" unreadableText =
      .ok ⟨[⟨"A", []⟩, ⟨"B", ["bad"]⟩]⟩ := by decide +kernel
  have hload := on_load_firstOnly hparse
  have hrendered : ∃ rendered, ((firstOnly.render : OnDisk .never _).on
      (schemaHolding unreadableText)).1.result = .ok rendered := by
    rw [on_render_of_load hvalid hload]
    exact exists_of_isOk (by decide +kernel)
  obtain ⟨rendered, hgenerated⟩ := (h firstOnly _ _ hvalid hload).mp hrendered
  have hfailed : (firstOnly.generateAll ["A", "B"] ⟨[⟨"A", []⟩, ⟨"B", ["bad"]⟩]⟩).isOk = false := by
    decide +kernel
  change firstOnly.generateAll ["A", "B"] _ = _ at hgenerated
  rw [hgenerated] at hfailed
  cases hfailed

end RunConfig

end TreeTypes
