import TreeTypes.Proofs.Grammar.Escaping
import TreeTypes.Proofs.Source.Imports
import TreeTypes.Proofs.Text.SnakeCase

/-!
# Modules of imports

A family is imported from the module that is called by its name in snake case. For the name of a
type this is an identifier, but keywords are not escaped in it: the module of a family has the name
of a keyword when the family is called by this keyword, capitalized or in capitals, with or without
underscores behind it.
-/

namespace TreeTypes

open Text

namespace Identifier

/-- An identifier that begins with a capital and is no keyword. -/
structure NamesType (name : String) : Prop where
  spelled : Spells name.toList
  capital : ∃ first, name.toList.head? = some first ∧ 'A' ≤ first ∧ first ≤ 'Z'
  free : name ∉ keywords

instance (name : String) : Decidable (NamesType name) :=
  decidable_of_iff (isSpelled name.toList = true ∧
      name.toList.head?.any (fun c => 'A' ≤ c ∧ c ≤ 'Z') = true ∧ name ∉ keywords) <| by
    rw [isSpelled_iff, Option.any_eq_true]
    simp only [decide_eq_true_eq]
    exact ⟨fun ⟨hspelled, hcapital, hfree⟩ => ⟨hspelled, hcapital, hfree⟩,
      fun ⟨hspelled, hcapital, hfree⟩ => ⟨hspelled, hcapital, hfree⟩⟩

/-- A path to a module: where it starts, and the modules below. -/
inductive LegalPath : String → Prop
  | start {first : String} : first ∈ ["crate", "self", "super"] ∨ Legal first → LegalPath first
  | inside {path name : String} : LegalPath path → Legal name → LegalPath (path ++ "::" ++ name)

/-- The characters of a keyword that begins with a capital. -/
def capitalized (keyword : String) : List Char :=
  match keyword.toList with
  | [] => []
  | first :: rest => first.toUpper :: rest

/-- The characters of a keyword in capitals. -/
def inCapitals (keyword : String) : List Char :=
  keyword.toList.map Char.toUpper

/-- A name is a keyword with its first letter or all letters capital, and underscores behind it. -/
inductive RecallsKeyword : String → Prop
  | intro {name keyword : String} {underscores : Nat} : keyword ∈ keywords →
      name.toList = capitalized keyword ++ List.replicate underscores '_' ∨
        name.toList = inCapitals keyword ++ List.replicate underscores '_' →
      RecallsKeyword name

variable {name : String} {c first : Char} {cs rest : List Char}

theorem NamesType.exists_cons (h : NamesType name) : ∃ first rest, name.toList = first :: rest ∧
    first.isUpper = true ∧ ∀ c ∈ first :: rest, isLater c = true := by
  obtain ⟨first, hfirst, hcapital⟩ := h.capital
  obtain ⟨rest, hname⟩ := List.head?_eq_some_iff.mp hfirst
  exact ⟨first, rest, hname, isUpper_iff.mpr hcapital, fun c hc => h.spelled.isLater (hname ▸ hc)⟩

theorem isAlphanumeric_of_isLater (h : isLater c = true) :
    isAlphanumeric c = true ∨ c = '_' := by
  rw [isAlphanumeric_of_ascii (code_of_isLater h).2]
  simpa [isLater] using h

theorem isAlphanumeric_of_isUpper (h : c.isUpper = true) (hc : isLater c = true) :
    isAlphanumeric c = true := by
  rw [isAlphanumeric_of_ascii (code_of_isLater hc).2]
  simp [Char.isAlphanum, isAlpha_eq_or, h]

/-- An ASCII letter is either small or capital. -/
theorem isUpper_eq_not_isLower (hc : isLater c = true) (h : c.isAlpha = true) :
    Text.isUpper c = !Text.isLower c := by
  rw [isUpper_of_ascii (code_of_isLater hc).2, isLower_of_ascii (code_of_isLater hc).2]
  cases hupper : c.isUpper with
  | true => simp [isLower_eq_false_of_isUpper hupper]
  | false => simpa [isAlpha_eq_or, hupper] using h

/-- The name of the module of a type. -/
theorem toList_moduleName (h : ∀ c ∈ name.toList, isLater c = true) : (moduleName name).toList =
    ['_'].intercalate ((nameWords name.toList).map (·.map Char.toLower)) :=
  toList_snakeCase fun c hc => (code_of_isLater (h c hc)).2

theorem nameWords_cons (rest : List Char) (hfirst : isAlphanumeric first = true) :
    ∃ tail words, nameWords (first :: rest) = (first :: tail) :: words := by
  have hne : nameWords (first :: rest) ≠ [] := by
    intro hnil
    have hnone := nameWords_eq_nil_iff.mp hnil first List.mem_cons_self
    simp [hfirst] at hnone
  obtain ⟨word, words, hwords⟩ := List.exists_cons_of_ne_nil hne
  obtain ⟨c, tail, rfl⟩ := List.exists_cons_of_ne_nil
    (ne_nil_of_mem_nameWords (hwords ▸ List.mem_cons_self : word ∈ nameWords (first :: rest)))
  have hflat := flatten_nameWords (first :: rest)
  rw [hwords, List.filter_cons_of_pos hfirst, List.flatten_cons, List.cons_append,
    List.cons.injEq] at hflat
  exact ⟨tail, words, by rw [hwords, hflat.1]⟩

/-- The module of a type has an identifier for its name, though it may be a keyword. -/
theorem spells_moduleName (h : NamesType name) :
    Spells (moduleName name).toList ∧ moduleName name ≠ "_" := by
  obtain ⟨first, rest, hname, hupper, hlater⟩ := h.exists_cons
  have hfirst := isAlphanumeric_of_isUpper hupper (hlater first List.mem_cons_self)
  have hmodule := toList_moduleName (hname ▸ hlater)
  have hall : ∀ c ∈ (moduleName name).toList, isLater c = true := by
    intro c hc
    rw [hmodule] at hc
    rcases mem_of_mem_intercalate hc with rfl | ⟨piece, hpiece, hmem⟩
    · decide
    · obtain ⟨word, hword, rfl⟩ := List.mem_map.mp hpiece
      obtain ⟨x, hx, rfl⟩ := List.mem_map.mp hmem
      exact isLater_toLower (hlater x (hname ▸ (mem_of_mem_nameWords hword hx).1))
  obtain ⟨tail, words, hwords⟩ := nameWords_cons rest hfirst
  obtain ⟨behind, hbehind⟩ : ∃ behind, (moduleName name).toList = first.toLower :: behind := by
    rw [hmodule, hname, hwords]
    cases words <;> exact ⟨_, rfl⟩
  have hletter : first.toLower.isAlpha = true := by
    rw [isAlpha_toLower]
    simp [isAlpha_eq_or, hupper]
  rw [hbehind] at hall
  constructor
  · rw [← isSpelled_iff, hbehind]
    simp only [isSpelled, isFirst, hletter, Bool.true_or, Bool.true_and, List.all_eq_true]
    exact fun c hc => hall c (List.mem_cons_of_mem _ hc)
  · rintro hunderscore
    rw [hunderscore] at hbehind
    obtain ⟨hlower, -⟩ := List.cons.inj hbehind
    rw [← hlower] at hletter
    cases hletter

theorem not_legal_of_mem_keywords (h : name ∈ keywords) : ¬ Legal name := by
  intro hlegal
  cases hlegal with
  | plain _ hstrict hreserved _ => exact (mem_keywords_iff.mp h).elim hstrict hreserved
  | raw _ _ hname =>
    have hall : ∀ keyword ∈ keywords, '#' ∉ keyword.toList := by decide +kernel
    exact ne_raw (hall name h) hname

theorem legal_moduleName_iff (h : NamesType name) :
    Legal (moduleName name) ↔ moduleName name ∉ keywords := by
  obtain ⟨hspelled, hname⟩ := spells_moduleName h
  exact ⟨fun hlegal hkeyword => not_legal_of_mem_keywords hkeyword hlegal,
    fun hkeyword => legal_of_not_keyword hspelled hkeyword hname⟩

theorem letters_of_mem_keywords (h : name ∈ keywords) : ∀ c ∈ name.toList, c.isAlpha = true := by
  have hall : (keywords.all fun keyword => keyword.toList.all Char.isAlpha) = true := by
    decide +kernel
  exact List.all_eq_true.mp (List.all_eq_true.mp hall name h)

/-- A single word of letters that begins with a capital is capitalized or in capitals. -/
theorem capitalized_or_inCapitals {keyword : String}
    (hlater : ∀ c ∈ first :: rest, isLater c = true)
    (hletters : ∀ c ∈ first :: rest, c.isAlpha = true) (hupper : first.isUpper = true)
    (hsingle : (caseWords .start [] (first :: rest)).length = 1)
    (hkeyword : keyword.toList = (first :: rest).map Char.toLower) :
    first :: rest = capitalized keyword ∨ first :: rest = inCapitals keyword := by
  have hcased : ∀ c ∈ first :: rest, Text.isUpper c = !Text.isLower c :=
    fun c hc => isUpper_eq_not_isLower (hlater c hc) (hletters c hc)
  have hascii : ∀ c ∈ first :: rest, c.toNat < 0x80 := fun c hc => (code_of_isLater (hlater c hc)).2
  obtain ⟨hfirst, hrest⟩ := List.forall_mem_cons.mp hascii
  have hcapital : Text.isUpper first = true := by rwa [isUpper_of_ascii hfirst]
  rcases lower_or_upper_of_length_caseWords hcased hcapital hsingle with hlower | hall
  · left
    have hsame : rest.map Char.toLower = rest := by
      refine (List.map_congr_left fun c hc => ?_).trans (List.map_id rest)
      have hc' : c.isLower = true := by rw [← isLower_of_ascii (hrest c hc), hlower c hc]
      refine toLower_of_not_isUpper (Bool.eq_false_iff.mpr fun hcapital => ?_)
      simp [isLower_eq_false_of_isUpper hcapital] at hc'
    rw [capitalized, hkeyword, List.map_cons, hsame]
    exact congrArg (· :: rest) (toUpper_toLower_of_isUpper hupper).symm
  · right
    rw [inCapitals, hkeyword, List.map_map]
    refine ((List.map_congr_left fun c hc => ?_).trans (List.map_id _)).symm
    rcases List.mem_cons.mp hc with rfl | hc
    · exact toUpper_toLower_of_isUpper hupper
    · exact toUpper_toLower_of_isUpper (by rw [← isUpper_of_ascii (hrest c hc), hall c hc])

theorem recallsKeyword_of_moduleName (h : NamesType name) (hmem : moduleName name ∈ keywords) :
    RecallsKeyword name := by
  obtain ⟨first, rest, hname, hupper, hlater⟩ := h.exists_cons
  have hfirst := isAlphanumeric_of_isUpper hupper (hlater first List.mem_cons_self)
  have hmodule := toList_moduleName (hname ▸ hlater)
  have hletters := letters_of_mem_keywords hmem
  obtain ⟨tail, words, hwords⟩ := nameWords_cons rest hfirst
  -- Between two words the name of the module would hold an underscore.
  obtain rfl : words = [] := by
    have hnone : '_' ∉ (moduleName name).toList := fun hin => by simpa using hletters _ hin
    rw [hmodule, hname, hwords] at hnone
    simpa using length_of_not_mem_intercalate hnone
  obtain ⟨tail, behind, rfl, hword, hsingle, hbehind⟩ :=
    exists_run_of_nameWords_eq_singleton hfirst hwords
  obtain ⟨-, rfl⟩ := List.cons.inj hword
  rw [← List.cons_append] at hname hlater
  obtain ⟨hrun, hrest⟩ := List.forall_mem_append.mp hlater
  have hkeyword : (moduleName name).toList = (first :: tail).map Char.toLower := by
    rw [hmodule, hname, List.cons_append, hwords]
    simp [List.intercalate]
  have hletter : ∀ c ∈ first :: tail, c.isAlpha = true := by
    intro c hc
    rw [← isAlpha_toLower]
    exact hletters _ (hkeyword ▸ List.mem_map_of_mem hc)
  have hunderscores : behind = List.replicate behind.length '_' := by
    refine List.eq_replicate_iff.mpr ⟨rfl, fun c hc => ?_⟩
    exact (isAlphanumeric_of_isLater (hrest c hc)).resolve_left (by simp [hbehind c hc])
  rw [hunderscores] at hname
  rcases capitalized_or_inCapitals hrun hletter hupper hsingle hkeyword with hshape | hshape
  · exact .intro hmem (.inl (hshape ▸ hname))
  · exact .intro hmem (.inr (hshape ▸ hname))

/-- The name of a module does not depend on underscores behind the name of the family. -/
theorem moduleName_append_underscores {front : List Char} {underscores : Nat}
    (h : name.toList = front ++ List.replicate underscores '_') :
    moduleName name = moduleName (String.ofList front) := by
  have hunderscore : isAlphanumeric '_' = false := by decide
  rw [moduleName, moduleName, snakeCase, snakeCase, h, String.toList_ofList,
    nameWords_append_separators hunderscore]

theorem moduleName_of_recallsKeyword (h : RecallsKeyword name) : moduleName name ∈ keywords := by
  have hall : ∀ keyword ∈ keywords, moduleName (String.ofList (capitalized keyword)) ∈ keywords ∧
      moduleName (String.ofList (inCapitals keyword)) ∈ keywords := by decide +kernel
  obtain ⟨hkeyword, hname | hname⟩ := h
  · rw [moduleName_append_underscores hname]
    exact (hall _ hkeyword).1
  · rw [moduleName_append_underscores hname]
    exact (hall _ hkeyword).2

theorem moduleName_mem_keywords_iff (h : NamesType name) :
    moduleName name ∈ keywords ↔ RecallsKeyword name :=
  ⟨recallsKeyword_of_moduleName h, moduleName_of_recallsKeyword⟩

end Identifier

namespace Source

variable {strategy : Strategy} {options : SourceOptions} {resolver : Resolver}
variable {family : Family} {resolved : ResolvedFamily} {preludeLines : List String}
variable {modulePrefix module name line : String}

/-- The line that imports a name from a module. -/
def pathImport (modulePrefix module name : String) : String :=
  "use " ++ modulePrefix ++ "::" ++ module ++ "::" ++ name ++ ";"

theorem importedName_pathImport (modulePrefix module name : String) :
    importedName (pathImport modulePrefix module name) = lastSegment name := by
  have hpath := importedName_append (modulePrefix ++ "::" ++ module) name
  simp only [String.append_assoc] at hpath
  simpa only [pathImport, String.append_assoc] using hpath

/-- An import line has only one last module and only one name. -/
theorem pathImport_inj {otherPrefix otherModule other : String} (hmodule : ':' ∉ module.toList)
    (hname : ':' ∉ name.toList) (hmodule' : ':' ∉ otherModule.toList) (hother : ':' ∉ other.toList)
    (h : pathImport modulePrefix module name = pathImport otherPrefix otherModule other) :
    module = otherModule ∧ name = other := by
  have hsame := congrArg importedName h
  rw [importedName_pathImport, importedName_pathImport, lastSegment_of_not_mem hname,
    lastSegment_of_not_mem hother] at hsame
  subst hsame
  refine ⟨?_, rfl⟩
  have hpath : "use " ++ modulePrefix ++ "::" ++ module =
      "use " ++ otherPrefix ++ "::" ++ otherModule := by
    have hbehind : "use " ++ modulePrefix ++ "::" ++ module ++ ("::" ++ name ++ ";") =
        "use " ++ otherPrefix ++ "::" ++ otherModule ++ ("::" ++ name ++ ";") := by
      simpa only [pathImport, String.append_assoc] using h
    exact (String.append_left_inj _).mp hbehind
  have hlast := congrArg lastSegment hpath
  rwa [lastSegment_append_colons, lastSegment_append_colons, lastSegment_of_not_mem hmodule,
    lastSegment_of_not_mem hmodule'] at hlast

theorem pathImport_ne_formatterImport : pathImport modulePrefix module name ≠ formatterImport := by
  intro h
  have hcolons := congrArg (fun text : String => text.toList.count ':') h
  simp [pathImport, formatterImport, String.toList_append, List.count_append] at hcolons
  omega

theorem pathImport_of_mem_allStandardImports (h : line ∈ allStandardImports) :
    line = formatterImport ∨ line = pathImport "std" "rc" "Rc" ∨
      line = pathImport "std" "sync" "Arc" ∨ line = pathImport "std" "any" "Any" := by
  have hall : ∀ line ∈ allStandardImports, line = formatterImport ∨
      line = pathImport "std" "rc" "Rc" ∨ line = pathImport "std" "sync" "Arc" ∨
        line = pathImport "std" "any" "Any" := by decide
  exact hall line h

/-- A line that imports a name from a module imports a family from its own module or is one of the
standard library. -/
theorem pathImport_cases (hroot : options.modulePrefix = some modulePrefix)
    (hnames : ∀ other ∈ resolver.families, Identifier.NamesType other)
    (hresolved : resolver.resolveFamily family = .ok resolved)
    (hline : pathImport modulePrefix module name ∈
      importBlock (requiredImports strategy options resolver resolved) preludeLines)
    (hmodule : ':' ∉ module.toList) (hname : ':' ∉ name.toList) :
    Identifier.NamesType name ∧ module = Identifier.moduleName name ∨
      (module, name) ∈ [("rc", "Rc"), ("sync", "Arc"), ("any", "Any")] := by
  rcases mem_requiredImports_iff.mp (mem_importBlock_iff.mp hline).1 with hfamily | hstandard
  · left
    obtain ⟨found, hfound, dependency, hdependency, heq⟩ := mem_familyImports_iff.mp hfamily
    obtain rfl := Option.some.inj (hfound.symm.trans hroot)
    have htype := hnames dependency (Resolver.of_mem_dependencies hresolved hdependency).1
    have hmodule' := (Identifier.spells_moduleName htype).1.not_mem (c := ':') (by decide)
    obtain ⟨rfl, rfl⟩ :=
      pathImport_inj hmodule' (htype.spelled.not_mem (by decide)) hmodule hname heq
    exact ⟨htype, rfl⟩
  · right
    have hknown := standardImports_subset strategy resolver resolved hstandard
    rcases pathImport_of_mem_allStandardImports hknown with h | h | h | h
    · exact absurd h pathImport_ne_formatterImport
    all_goals
      obtain ⟨rfl, rfl⟩ := pathImport_inj hmodule hname (by decide) (by decide) h
      decide

/-- The module that a generated line imports from is legal unless it is a keyword, and it is a
keyword when the name that is imported recalls one. -/
theorem importedModule_legal_iff (hroot : options.modulePrefix = some modulePrefix)
    (hnames : ∀ other ∈ resolver.families, Identifier.NamesType other)
    (hresolved : resolver.resolveFamily family = .ok resolved)
    (hline : pathImport modulePrefix module name ∈
      importBlock (requiredImports strategy options resolver resolved) preludeLines)
    (hmodule : ':' ∉ module.toList) (hname : ':' ∉ name.toList) :
    (Identifier.Legal module ↔ module ∉ Identifier.keywords) ∧
      (module ∈ Identifier.keywords ↔ Identifier.RecallsKeyword name) := by
  rcases pathImport_cases hroot hnames hresolved hline hmodule hname with
    ⟨htype, rfl⟩ | hstandard
  · exact ⟨Identifier.legal_moduleName_iff htype, Identifier.moduleName_mem_keywords_iff htype⟩
  · have hall : ∀ pair ∈ [("rc", "Rc"), ("sync", "Arc"), ("any", "Any")],
        Identifier.isSpelled pair.1.toList = true ∧ pair.1 ≠ "_" ∧
          pair.1 ∉ Identifier.keywords ∧
            Identifier.moduleName pair.2 ∉ Identifier.keywords := by decide +kernel
    obtain ⟨hspelled, hunderscore, hfree, hrecalls⟩ := hall _ hstandard
    have hlegal := Identifier.legal_of_not_keyword (Identifier.isSpelled_iff.mp hspelled) hfree
      hunderscore
    exact ⟨iff_of_true hlegal hfree,
      iff_of_false hfree (mt Identifier.moduleName_of_recallsKeyword hrecalls)⟩

/-- A family that refers to two others, of which the name of one begins with a keyword. -/
def declarations : Family :=
  ⟨"Stmt", [⟨"Let", [⟨"declared", "TypeDecl"⟩, ⟨"value", "Expr"⟩]⟩]⟩

/-- The resolver that knows these families. -/
def declarationsResolver : Resolver where
  policy := .shared
  handle := .rc
  families := ["Stmt", "TypeDecl", "Expr"]

/-- What the family is resolved to. -/
def resolvedDeclarations : ResolvedFamily :=
  ⟨"Stmt", [⟨"Let", [⟨"declared", "TypeDecl", "Rc<TypeDecl>", .crossFamily "TypeDecl"⟩,
    ⟨"value", "Expr", "Rc<Expr>", .crossFamily "Expr"⟩]⟩], ["TypeDecl", "Expr"]⟩

theorem typeDecl_legal :
    (∀ other ∈ declarationsResolver.families, Identifier.NamesType other) ∧
      declarationsResolver.resolveFamily declarations = .ok resolvedDeclarations ∧
      pathImport "crate" "type_decl" "TypeDecl" ∈ importBlock
        (requiredImports .closedUnion fromRoot declarationsResolver resolvedDeclarations) [] ∧
      Identifier.Legal "type_decl" ∧ ¬ Identifier.RecallsKeyword "TypeDecl" := by
  have hnames : ∀ other ∈ declarationsResolver.families, Identifier.NamesType other := by
    decide +kernel
  have hresolved : declarationsResolver.resolveFamily declarations = .ok resolvedDeclarations := by
    decide +kernel
  have hline : pathImport "crate" "type_decl" "TypeDecl" ∈ importBlock
      (requiredImports .closedUnion fromRoot declarationsResolver resolvedDeclarations) [] := by
    decide +kernel
  have hfree : "type_decl" ∉ Identifier.keywords := by decide +kernel
  obtain ⟨hlegal, hrecalls⟩ := importedModule_legal_iff rfl hnames hresolved hline
    (by decide) (by decide)
  exact ⟨hnames, hresolved, hline, hlegal.mpr hfree, mt hrecalls.mpr hfree⟩

/-- The family `Type` is imported from a module that is called by a keyword. -/
theorem not_legal_importedModule : ¬ ∀ (strategy : Strategy) (options : SourceOptions)
    (resolver : Resolver) (family : Family) (resolved : ResolvedFamily)
    (preludeLines : List String) (modulePrefix module name : String),
    options.modulePrefix = some modulePrefix → Identifier.LegalPath modulePrefix →
    (∀ other ∈ resolver.families, Identifier.NamesType other) →
    family.name ∈ resolver.families → resolver.resolveFamily family = .ok resolved →
    name ∈ resolved.dependencies → pathImport modulePrefix module name ∈
      importBlock (requiredImports strategy options resolver resolved) preludeLines →
    Identifier.Legal module := by
  intro h
  have hkeyword : "type" ∈ Identifier.keywords := by decide +kernel
  have hresolved : (Resolver.mk .shared .rc ["Stmt", "Type"] []).resolveFamily
      ⟨"Stmt", [⟨"Let", [⟨"declared", "Type"⟩]⟩]⟩ = .ok ⟨"Stmt", [⟨"Let", [
        ⟨"declared", "Type", "Rc<Type>", .crossFamily "Type"⟩]⟩], ["Type"]⟩ := by decide +kernel
  refine Identifier.not_legal_of_mem_keywords hkeyword
    (h .closedUnion fromRoot _ _ _ [] "crate" "type" "Type" rfl (.start (.inl (by decide)))
      (by decide +kernel) (by decide) hresolved (by decide) (by decide +kernel))

end Source

end TreeTypes
