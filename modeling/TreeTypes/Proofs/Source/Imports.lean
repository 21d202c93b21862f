import Mathlib.Data.List.DropRight
import Mathlib.Data.List.Infix
import Mathlib.Data.List.Nodup
import Mathlib.Data.String.Basic
import TreeTypes.Proofs.Text.SnakeCase
import TreeTypes.Source.Generate

/-!
# Imports

The import lines of a layout are those of the families that are referred to and a few of the
standard library. The import block holds each of them once, in ascending order, and none that the
prelude holds already. A line brings the last segment of its path into scope.
-/

namespace TreeTypes.Source

section

variable {line : String} {lines required declared : List String}

theorem sorted_insertLine (h : lines.Pairwise (· < ·)) :
    (insertLine line lines).Pairwise (· < ·) := by
  induction lines with
  | nil => exact List.pairwise_singleton _ line
  | cons first rest ih =>
    obtain ⟨hfirst, hrest⟩ := List.pairwise_cons.mp h
    unfold insertLine
    split
    case isTrue => exact h
    case isFalse hne =>
      split
      case isTrue hlt =>
        refine List.pairwise_cons.mpr ⟨?_, h⟩
        exact List.forall_mem_cons.mpr ⟨hlt, fun other hother => lt_trans hlt (hfirst other hother)⟩
      case isFalse hge =>
        refine List.pairwise_cons.mpr ⟨fun other hother => ?_, ih hrest⟩
        rcases mem_insertLine.mp hother with rfl | hother
        · exact lt_of_le_of_ne (not_lt.mp hge) (Ne.symm hne)
        · exact hfirst other hother

theorem sorted_sortedLines (lines : List String) : (sortedLines lines).Pairwise (· < ·) := by
  induction lines with
  | nil => exact .nil
  | cons line lines ih => exact sorted_insertLine ih

theorem nodup_importBlock (required declared : List String) :
    (importBlock required declared).Nodup := by
  have hsorted := (sorted_sortedLines required).imp fun {_ _} hlt => ne_of_lt hlt
  exact List.Nodup.filter _ hsorted

theorem mem_importBlock_iff : line ∈ importBlock required declared ↔
    line ∈ required ∧ ∀ other ∈ declared, String.ofList (Text.trim other.toList) ≠ line := by
  simp [importBlock]

end

variable {strategy : Strategy} {options : SourceOptions} {resolver : Resolver}
variable {family : ResolvedFamily} {line modulePrefix name : String}

/-- The imports of the standard library that a layout needs. -/
def standardImports (strategy : Strategy) (resolver : Resolver) (family : ResolvedFamily) :
    List String :=
  (match strategy with
    | .closedUnion => formatterImport ::
      if resolver.policy = .shared || family.hasFamilyReferences || family.hasDynamicFields then
        [resolver.handle.importLine]
      else []
    | .openPolymorphic => []) ++
  if family.hasDynamicFields then [dynamicImport] else []

theorem mem_standardImports_iff : line ∈ standardImports strategy resolver family ↔
    (strategy = .closedUnion ∧ (line = formatterImport ∨
      (resolver.policy = .shared ∨ family.hasFamilyReferences = true ∨
        family.hasDynamicFields = true) ∧ line = resolver.handle.importLine)) ∨
    family.hasDynamicFields = true ∧ line = dynamicImport := by
  cases strategy <;> simp [standardImports, List.mem_ite_nil_right, or_assoc]

theorem mem_requiredImports_iff : line ∈ requiredImports strategy options resolver family ↔
    line ∈ familyImports options family ∨ line ∈ standardImports strategy resolver family := by
  cases strategy with
  | closedUnion =>
    simp only [requiredImports, ClosedUnion.requiredImports, standardImports, List.mem_append,
      List.mem_cons, List.not_mem_nil, or_false]
    tauto
  | openPolymorphic =>
    simp only [requiredImports, OpenPolymorphic.requiredImports, standardImports, List.mem_append,
      List.nil_append]

theorem mem_familyImports_iff : line ∈ familyImports options family ↔
    ∃ modulePrefix, options.modulePrefix = some modulePrefix ∧
      ∃ name ∈ family.dependencies, familyImport modulePrefix name = line := by
  unfold familyImports
  cases options.modulePrefix <;> simp

/-- What stands behind the last colon of a path. -/
def lastSegment (path : String) : String :=
  String.ofList (path.toList.rtakeWhile (· != ':'))

/-- The name that an import line brings into scope. -/
def importedName (line : String) : String :=
  lastSegment (String.ofList line.toList.dropLast)

theorem lastSegment_of_not_mem (h : ':' ∉ name.toList) : lastSegment name = name := by
  have hall : name.toList.rtakeWhile (· != ':') = name.toList := by
    rw [List.rtakeWhile_eq_self_iff]
    intro c hc
    simpa using fun heq : c = ':' => h (heq ▸ hc)
  rw [lastSegment, hall, String.ofList_toList]

theorem lastSegment_append (front name : String) : lastSegment (front ++ ":" ++ name) =
    lastSegment name := by
  have hstop : (name.toList.reverse ++ ':' :: front.toList.reverse).takeWhile (· != ':') =
      name.toList.reverse.takeWhile (· != ':') := by
    rw [List.takeWhile_append]
    split
    case isTrue hlength =>
      have hall := (List.takeWhile_prefix (· != ':')).eq_of_length hlength
      rw [hall]
      simp
    case isFalse => rfl
  simp only [lastSegment, List.rtakeWhile, String.toList_append, List.reverse_append]
  have hcolon : (":" : String).toList.reverse = [':'] := rfl
  rw [hcolon, List.singleton_append, hstop]

theorem lastSegment_append_colons (front name : String) :
    lastSegment (front ++ "::" ++ name) = lastSegment name := by
  have hcolons : ("::" : String) = ":" ++ ":" := rfl
  rw [hcolons, ← String.append_assoc, lastSegment_append]

theorem importedName_append (path name : String) :
    importedName ("use " ++ path ++ "::" ++ name ++ ";") = lastSegment name := by
  have hline : ("use " ++ path ++ "::" ++ name ++ ";").toList.dropLast =
      ("use " ++ path ++ "::" ++ name).toList := by
    rw [String.toList_append]
    exact List.dropLast_concat
  rw [importedName, hline, String.ofList_toList, lastSegment_append_colons]

theorem importedName_familyImport (modulePrefix name : String) :
    importedName (familyImport modulePrefix name) = lastSegment name := by
  have hpath := importedName_append (modulePrefix ++ "::" ++ Identifier.moduleName name) name
  simp only [String.append_assoc] at hpath
  simpa only [familyImport, String.append_assoc] using hpath

/-- The families that are imported. -/
def importedFamilies (options : SourceOptions) (family : ResolvedFamily) : List String :=
  if options.modulePrefix.isSome then family.dependencies else []

/-- Options under which families are imported from the root. -/
def fromRoot : SourceOptions := { modulePrefix := some "crate" }

/-- The names that are imported from the standard library. -/
def standardNames (strategy : Strategy) (resolver : Resolver) (family : ResolvedFamily) :
    List String :=
  (match strategy with
    | .closedUnion => "fmt" ::
      if resolver.policy = .shared || family.hasFamilyReferences || family.hasDynamicFields then
        [resolver.handle.typeName]
      else []
    | .openPolymorphic => []) ++
  if family.hasDynamicFields then [dynamicType] else []

/-- The lines that import from the standard library, in any file. -/
def allStandardImports : List String :=
  [formatterImport, SharedHandle.rc.importLine, SharedHandle.arc.importLine, dynamicImport]

theorem standardImports_subset (strategy : Strategy) (resolver : Resolver)
    (family : ResolvedFamily) : standardImports strategy resolver family ⊆ allStandardImports := by
  have hhandle : resolver.handle.importLine ∈ allStandardImports := by
    cases resolver.handle <;> decide
  have hformatter : formatterImport ∈ allStandardImports := List.mem_cons_self
  have hdynamic : dynamicImport ∈ allStandardImports := by decide
  intro line hline
  unfold standardImports at hline
  grind

theorem importedName_inj_of_standard {x y : String} (hx : x ∈ allStandardImports)
    (hy : y ∈ allStandardImports) (h : importedName x = importedName y) : x = y := by
  have hall : ∀ x ∈ allStandardImports, ∀ y ∈ allStandardImports,
      importedName x = importedName y → x = y := by decide
  exact hall x hx y hy h

theorem map_importedName_standardImports (strategy : Strategy) (resolver : Resolver)
    (family : ResolvedFamily) : (standardImports strategy resolver family).map importedName =
      standardNames strategy resolver family := by
  have hhandle : importedName resolver.handle.importLine = resolver.handle.typeName := by
    cases resolver.handle <;> decide
  have hformatter : importedName formatterImport = "fmt" := by decide
  have hdynamic : importedName dynamicImport = dynamicType := by decide
  unfold standardImports standardNames
  cases strategy with
  | closedUnion =>
    simp only [List.map_append, List.map_cons, apply_ite (List.map importedName), List.map_nil,
      hformatter, hhandle, hdynamic]
  | openPolymorphic =>
    simp only [List.map_append, List.map_cons, apply_ite (List.map importedName), List.map_nil,
      hdynamic]

theorem toList_familyImport (modulePrefix name : String) :
    (familyImport modulePrefix name).toList = ("use " ++ modulePrefix ++ "::").toList ++
      ((Identifier.moduleName name).toList ++ ':' :: ':' :: (name.toList ++ [';'])) := by
  have hcolons : ("::" : String).toList = [':', ':'] := rfl
  have hend : (";" : String).toList = [';'] := rfl
  rw [familyImport]
  simp only [String.toList_append, hcolons, hend, List.append_assoc, List.cons_append,
    List.nil_append]

theorem colon_not_mem_moduleName (name : String) : ':' ∉ (Identifier.moduleName name).toList :=
  Text.colon_not_mem_snakeCase name

/-- The line that imports a family tells its name, since the module before it holds no colon. -/
theorem familyImport_inj {other : String}
    (h : familyImport modulePrefix name = familyImport modulePrefix other) : name = other := by
  have hpath := congrArg String.toList h
  rw [toList_familyImport, toList_familyImport] at hpath
  have hsplit := congrArg (Text.splitOnce ':') (List.append_cancel_left hpath)
  rw [Text.splitOnce_append_cons (colon_not_mem_moduleName name),
    Text.splitOnce_append_cons (colon_not_mem_moduleName other)] at hsplit
  obtain ⟨-, hname⟩ := Prod.mk.inj (Option.some.inj hsplit)
  exact String.toList_inj.mp (List.append_cancel_right (List.cons.inj hname).2)

/-- The line that imports a family is one of the standard library only for `Rc` below `std`. -/
theorem eq_std_of_familyImport_mem (hname : name ≠ dynamicType)
    (h : familyImport modulePrefix name ∈ allStandardImports) :
    modulePrefix = "std" ∧ name = "Rc" := by
  have hall : ∀ line ∈ allStandardImports, ∀ behind ∈ line.toList.tails,
      ':' :: ':' :: behind <:+ line.toList →
      (Identifier.moduleName (String.ofList behind.dropLast)).toList ++ ':' :: ':' :: behind <:+
        line.toList →
      line = SharedHandle.rc.importLine ∧ behind.dropLast = "Rc".toList ∨
        behind.dropLast = dynamicType.toList := by
    decide +kernel
  have hends : (Identifier.moduleName name).toList ++ ':' :: ':' :: (name.toList ++ [';']) <:+
      (familyImport modulePrefix name).toList := by
    rw [toList_familyImport]
    exact List.suffix_append _ _
  have hcolons : ':' :: ':' :: (name.toList ++ [';']) <:+
      (familyImport modulePrefix name).toList := .trans (List.suffix_append _ _) hends
  have hbehind : name.toList ++ [';'] <:+ (familyImport modulePrefix name).toList :=
    .trans ⟨[':', ':'], rfl⟩ hcolons
  have hfound := hall _ h _ ((List.mem_tails _ _).mpr hbehind) hcolons
  rw [List.dropLast_concat, String.ofList_toList, String.toList_inj, String.toList_inj] at hfound
  obtain ⟨hline, rfl⟩ := (hfound hends).resolve_right hname
  have hmodule : Identifier.moduleName "Rc" = "rc" := by decide +kernel
  have hpath : ("::" ++ ("rc" ++ ("::" ++ ("Rc" ++ ";"))) : String) = "::rc::Rc;" := by decide
  have hstandard : SharedHandle.rc.importLine = "use " ++ ("std" ++ "::rc::Rc;") := by decide
  rw [familyImport, hmodule, hstandard] at hline
  simp only [String.append_assoc, hpath] at hline
  exact ⟨(String.append_left_inj _).mp ((String.append_right_inj _).mp hline), rfl⟩

theorem mem_importedFamilies_iff : name ∈ importedFamilies options family ↔
    (∃ modulePrefix, options.modulePrefix = some modulePrefix) ∧ name ∈ family.dependencies := by
  rw [importedFamilies, List.mem_ite_nil_right, Option.isSome_iff_exists]

/-- A generated line imports a family or a name of the standard library. -/
theorem mem_importBlock_requiredImports_iff :
    line ∈ importBlock (requiredImports strategy options resolver family) [] ↔
      (∃ modulePrefix, options.modulePrefix = some modulePrefix ∧
        ∃ name ∈ family.dependencies, familyImport modulePrefix name = line) ∨
      line ∈ standardImports strategy resolver family := by
  rw [mem_importBlock_iff, mem_requiredImports_iff, mem_familyImports_iff]
  simp only [List.not_mem_nil, false_imp_iff, implies_true, and_true]

theorem mem_importedNames_iff :
    name ∈ (importBlock (requiredImports strategy options resolver family) []).map importedName ↔
      (∃ other ∈ importedFamilies options family, lastSegment other = name) ∨
        name ∈ standardNames strategy resolver family := by
  rw [← map_importedName_standardImports, List.mem_map, List.mem_map]
  simp only [mem_importBlock_requiredImports_iff, mem_importedFamilies_iff]
  constructor
  · rintro ⟨line, ⟨modulePrefix, hroot, other, hother, rfl⟩ | hline, rfl⟩
    · exact .inl ⟨other, ⟨⟨modulePrefix, hroot⟩, hother⟩, (importedName_familyImport _ _).symm⟩
    · exact .inr ⟨line, hline, rfl⟩
  · rintro (⟨other, ⟨⟨modulePrefix, hroot⟩, hother⟩, rfl⟩ | ⟨line, hline, rfl⟩)
    · exact ⟨_, .inl ⟨modulePrefix, hroot, other, hother, rfl⟩, importedName_familyImport _ _⟩
    · exact ⟨line, .inr hline, rfl⟩

/-- A family is imported under the name of a standard import by the same line only. -/
theorem familyImport_eq_iff (hname : name ≠ dynamicType)
    (hline : line ∈ standardImports strategy resolver family)
    (hsame : importedName line = lastSegment name) :
    familyImport modulePrefix name = line ↔ modulePrefix = "std" ∧ name = "Rc" := by
  have hstandard := standardImports_subset strategy resolver family hline
  constructor
  · rintro rfl
    exact eq_std_of_familyImport_mem hname hstandard
  · rintro ⟨rfl, rfl⟩
    have hrc : familyImport "std" "Rc" ∈ allStandardImports := by decide +kernel
    exact importedName_inj_of_standard hrc hstandard
      ((importedName_familyImport _ _).trans hsame.symm)

theorem familyImport_mem_importBlock (hroot : options.modulePrefix = some modulePrefix)
    (hname : name ∈ family.dependencies) : familyImport modulePrefix name ∈
      importBlock (requiredImports strategy options resolver family) [] :=
  mem_importBlock_requiredImports_iff.mpr (.inl ⟨modulePrefix, hroot, name, hname, rfl⟩)

/-- Where the imports have different names, so have the families, and none of these has the name of
a standard import but by the same line. -/
theorem apart_of_importedName_inj (hdynamic : dynamicType ∉ family.dependencies)
    (hinj : ∀ x ∈ importBlock (requiredImports strategy options resolver family) [],
      ∀ y ∈ importBlock (requiredImports strategy options resolver family) [],
        importedName x = importedName y → x = y)
    (hroot : options.modulePrefix = some modulePrefix) :
    (∀ first ∈ family.dependencies, ∀ second ∈ family.dependencies,
      lastSegment first = lastSegment second → first = second) ∧
    ∀ other ∈ family.dependencies, lastSegment other ∈ standardNames strategy resolver family →
      modulePrefix = "std" ∧ other = "Rc" := by
  constructor
  · intro first hfirst second hsecond hsame
    refine familyImport_inj (hinj _ (familyImport_mem_importBlock hroot hfirst) _
      (familyImport_mem_importBlock hroot hsecond) ?_)
    rw [importedName_familyImport, importedName_familyImport, hsame]
  · intro other hother hstandard
    rw [← map_importedName_standardImports] at hstandard
    obtain ⟨line, hline, hname⟩ := List.mem_map.mp hstandard
    refine (familyImport_eq_iff (fun hany => hdynamic (hany ▸ hother)) hline hname).mp ?_
    exact hinj _ (familyImport_mem_importBlock hroot hother) _
      (mem_importBlock_requiredImports_iff.mpr (.inr hline))
      ((importedName_familyImport _ _).trans hname.symm)

theorem familyImport_eq_of_foreign (hdynamic : dynamicType ∉ family.dependencies)
    (hforeign : ∀ other ∈ family.dependencies,
      lastSegment other ∈ standardNames strategy resolver family →
        modulePrefix = "std" ∧ other = "Rc")
    (hname : name ∈ family.dependencies) (hline : line ∈ standardImports strategy resolver family)
    (hsame : importedName line = lastSegment name) : familyImport modulePrefix name = line := by
  have hstandard : lastSegment name ∈ standardNames strategy resolver family := by
    rw [← map_importedName_standardImports, ← hsame]
    exact List.mem_map_of_mem hline
  exact (familyImport_eq_iff (fun hany => hdynamic (hany ▸ hname)) hline hsame).mpr
    (hforeign name hname hstandard)

/-- The imports bring different names into scope unless two families have the same last segment, or
one has that of a standard import. `Rc` below `std` is the standard one. -/
theorem nodup_importedNames_iff (hnodup : family.dependencies.Nodup)
    (hdynamic : dynamicType ∉ family.dependencies) :
    ((importBlock (requiredImports strategy options resolver family) []).map importedName).Nodup ↔
      ((importedFamilies options family).map lastSegment).Nodup ∧
        ∀ other ∈ importedFamilies options family,
          lastSegment other ∈ standardNames strategy resolver family →
            options.modulePrefix = some "std" ∧ other = "Rc" := by
  rw [List.nodup_map_iff_inj_on (nodup_importBlock _ _)]
  cases hroot : options.modulePrefix with
  | none =>
    have hnone : importedFamilies options family = [] := by simp [importedFamilies, hroot]
    have hstandard {x : String} (hx : x ∈ importBlock
        (requiredImports strategy options resolver family) []) : x ∈ allStandardImports := by
      rcases mem_importBlock_requiredImports_iff.mp hx with ⟨_, hsome, _⟩ | hx
      · simp [hroot] at hsome
      · exact standardImports_subset strategy resolver family hx
    rw [hnone]
    exact iff_of_true (fun x hx y hy => importedName_inj_of_standard (hstandard hx) (hstandard hy))
      (by simp)
  | some modulePrefix =>
    have hsome : importedFamilies options family = family.dependencies := by
      simp [importedFamilies, hroot]
    rw [hsome, List.nodup_map_iff_inj_on hnodup]
    simp only [Option.some.injEq]
    constructor
    · exact fun hinj => apart_of_importedName_inj hdynamic hinj hroot
    · rintro ⟨hdistinct, hforeign⟩ x hx y hy hsame
      rw [mem_importBlock_requiredImports_iff, hroot] at hx hy
      rcases hx with ⟨_, ⟨rfl⟩, first, hfirst, rfl⟩ | hx
      · rw [importedName_familyImport] at hsame
        rcases hy with ⟨_, ⟨rfl⟩, second, hsecond, rfl⟩ | hy
        · rw [importedName_familyImport] at hsame
          rw [hdistinct first hfirst second hsecond hsame]
        · exact familyImport_eq_of_foreign hdynamic hforeign hfirst hy hsame.symm
      · rcases hy with ⟨_, ⟨rfl⟩, second, hsecond, rfl⟩ | hy
        · rw [importedName_familyImport] at hsame
          exact (familyImport_eq_of_foreign hdynamic hforeign hsecond hx hsame).symm
        · exact importedName_inj_of_standard (standardImports_subset _ _ _ hx)
            (standardImports_subset _ _ _ hy) hsame

end TreeTypes.Source
