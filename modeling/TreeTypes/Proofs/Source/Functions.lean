import TreeTypes.Proofs.Grammar.Reading
import TreeTypes.Proofs.Source.Lines
import TreeTypes.Proofs.Text.SnakeCase
import TreeTypes.Source.ClosedUnion

/-!
# The functions of a closed union

A function that belongs to a union is declared on a line of its own, and `declaredFunctions` reads
the names off the generated lines. They are the constructors of the variants: neither the
enumeration nor the formatter holds such a line, since `pub` cannot be the name of a variant.
-/

namespace TreeTypes

open Text

namespace Identifier

theorem not_mem_constructorChars {cs : List Char} (h : '(' ∉ cs) : '(' ∉ constructorChars cs := by
  cases cs with
  | nil => exact h
  | cons first rest =>
    obtain ⟨hfirst, hrest⟩ := not_or.mp (mt List.mem_cons.mpr h)
    simp only [constructorChars, List.mem_cons, List.mem_flatMap, not_or, not_exists, not_and]
    refine ⟨(toLower_ne (Ne.symm hfirst) (by decide)).symm, fun c hc => ?_⟩
    have hne : c ≠ '(' := fun heq => hrest (heq ▸ hc)
    unfold constructorChar
    split
    · simpa using (toLower_ne hne (by decide)).symm
    · simpa using hne.symm

theorem not_mem_escape {name : String} (h : '(' ∉ name.toList) : '(' ∉ (escape name).toList := by
  unfold escape
  split
  · exact h
  · split <;> simpa using h

theorem not_mem_constructorName {name : String} (h : '(' ∉ name.toList) :
    '(' ∉ (constructorName name).toList :=
  not_mem_escape (by simpa using not_mem_constructorChars h)

end Identifier

namespace Source

/-- The name of the function that a line declares. -/
def declaredFunction? (line : String) : Option String :=
  if "    pub fn ".toList <+: line.toList then
    some (String.ofList ((line.toList.drop 11).takeWhile (· != '(')))
  else none

/-- The names of the functions that lines declare. -/
def declaredFunctions (lines : List String) : List String :=
  lines.filterMap declaredFunction?

theorem declaredFunctions_append (lines others : List String) :
    declaredFunctions (lines ++ others) = declaredFunctions lines ++ declaredFunctions others :=
  List.filterMap_append

theorem declaredFunctions_cons_of_none {line : String} {lines : List String}
    (h : declaredFunction? line = none) :
    declaredFunctions (line :: lines) = declaredFunctions lines :=
  List.filterMap_cons_none h

theorem declaredFunction?_declaration {name : String} (h : '(' ∉ name.toList) (rest : String) :
    declaredFunction? ("    pub fn " ++ name ++ "(" ++ rest) = some name := by
  have hline : ("    pub fn " ++ name ++ "(" ++ rest).toList =
      "    pub fn ".toList ++ (name.toList ++ '(' :: rest.toList) := by
    simp [String.toList_append]
  exact nameBehind?_of_toList_eq h hline

/-- A line that begins in another way declares no function. -/
theorem declaredFunction?_of_diverge {front : String} (h : Diverge "    pub fn " front)
    (rest : String) : declaredFunction? (front ++ rest) = none :=
  nameBehind?_of_diverge h rest

theorem declaredFunctions_intercalate (blocks : List (List String)) :
    declaredFunctions ([""].intercalate blocks) = blocks.flatMap declaredFunctions := by
  induction blocks with
  | nil => rfl
  | cons block blocks ih =>
    cases blocks with
    | nil => simp [List.intercalate]
    | cons next blocks =>
      have hempty : declaredFunctions [""] = [] := by decide
      rw [List.intercalate_cons_cons, declaredFunctions_append, declaredFunctions_append, ih,
        hempty, List.append_nil, ← List.flatMap_cons]

namespace ClosedUnion

variable (options : SourceOptions) (policy : Policy) (handle : SharedHandle)

theorem declaredFunctions_constructorLines (family : String) {variant : ResolvedVariant}
    (h : '(' ∉ variant.name.toList) :
    declaredFunctions (constructorLines options policy handle family variant) =
      [Identifier.constructorName variant.name] := by
  have hdocs : declaredFunctions (if options.docs then
      ["    /// Builds a [`" ++ family ++ "::" ++ variant.name ++ "`]."] else []) = [] := by
    split
    · simp only [String.append_assoc]
      rw [declaredFunctions_cons_of_none (declaredFunction?_of_diverge (by decide) _)]
      rfl
    · rfl
  have hdeclared := declaredFunction?_declaration (Identifier.not_mem_constructorName h)
    (typedFields variant.fields ++ ") -> " ++ returnType policy handle family ++ " \x7b")
  have hreturned : declaredFunction? ("        " ++ returned policy handle family variant) = none :=
    declaredFunction?_of_diverge (by decide) _
  have hclosing : declaredFunction? "    \x7d" = none := by decide
  rw [constructorLines, declaredFunctions_append, hdocs, List.nil_append]
  simp only [declaredFunctions, List.filterMap_cons, List.filterMap_nil, hreturned, hclosing]
  simp only [String.append_assoc] at hdeclared ⊢
  rw [hdeclared]

theorem declaredFunctions_constructorBlock {family : ResolvedFamily}
    (h : ∀ variant ∈ family.variants, '(' ∉ variant.name.toList) :
    declaredFunctions (constructorBlock options policy handle family) =
      family.variants.map fun variant => Identifier.constructorName variant.name := by
  have hopening : declaredFunctions ["impl " ++ family.name ++ " \x7b"] = [] := by
    rw [String.append_assoc]
    exact declaredFunctions_cons_of_none (declaredFunction?_of_diverge (by decide) _)
  have hclosing : declaredFunctions ["\x7d"] = [] := by decide
  rw [constructorBlock, declaredFunctions_append, declaredFunctions_append, hopening, hclosing,
    declaredFunctions_intercalate, List.flatMap_map, List.nil_append, List.append_nil,
    List.map_eq_flatMap]
  exact List.flatMap_congr fun variant hvariant =>
    declaredFunctions_constructorLines options policy handle family.name (h variant hvariant)

/-- The case of a variant is no declaration, since the variant is not called `pub`. -/
theorem declaredFunction?_caseLine {variant : ResolvedVariant} (hblank : ' ' ∉ variant.name.toList)
    (hpub : variant.name ≠ "pub") : declaredFunction? (caseLine variant) = none := by
  rw [declaredFunction?, if_neg]
  rintro ⟨rest, hrest⟩
  -- Up to the next blank the line would have to read `pub` behind the indentation.
  obtain ⟨tail, htail⟩ : ∃ tail, (caseLine variant).toList =
      "    ".toList ++ (variant.name.toList ++ ' ' :: tail) :=
    ⟨_, by simp only [caseLine, String.append_assoc, String.toList_append]; rfl⟩
  have hwords : "pub".toList ++ ' ' :: ("fn ".toList ++ rest) =
      variant.name.toList ++ ' ' :: tail :=
    List.append_cancel_left (show "    ".toList ++ _ = "    ".toList ++ _ from hrest.trans htail)
  have hsplit := congrArg (splitOnce ' ') hwords
  rw [splitOnce_append_cons (by decide), splitOnce_append_cons hblank] at hsplit
  exact hpub (String.toList_inj.mp (Prod.mk.inj (Option.some.inj hsplit)).1.symm)

theorem declaredFunctions_enumeration {family : ResolvedFamily}
    (h : ∀ variant ∈ family.variants, ' ' ∉ variant.name.toList ∧ variant.name ≠ "pub") :
    declaredFunctions (enumeration options family) = [] := by
  have hdocs : declaredFunctions (if options.docs then
      ["/// `" ++ family.name ++ "` syntax tree node."] else []) = [] := by
    split
    · rw [String.append_assoc]
      exact declaredFunctions_cons_of_none (declaredFunction?_of_diverge (by decide) _)
    · rfl
  have hderive : declaredFunction? ("#[derive(" ++
      String.intercalate ", " (derivedTraits options) ++ ")]") = none := by
    rw [String.append_assoc]
    exact declaredFunction?_of_diverge (by decide) _
  have hopening : declaredFunction? ("pub enum " ++ family.name ++ " \x7b") = none := by
    rw [String.append_assoc]
    exact declaredFunction?_of_diverge (by decide) _
  have hcases : declaredFunctions (family.variants.map caseLine) = [] := by
    refine List.filterMap_eq_nil_iff.mpr fun line hline => ?_
    obtain ⟨variant, hvariant, rfl⟩ := List.mem_map.mp hline
    exact declaredFunction?_caseLine (h variant hvariant).1 (h variant hvariant).2
  have hclosing : declaredFunctions ["\x7d"] = [] := by decide
  rw [enumeration, declaredFunctions_append, declaredFunctions_append, declaredFunctions_append,
    hdocs, hcases, hclosing, declaredFunctions_cons_of_none hderive,
    declaredFunctions_cons_of_none hopening]
  rfl

theorem declaredFunctions_formatter (family : String) :
    declaredFunctions (formatter family) = [] := by
  have hopening : declaredFunction? ("impl fmt::Display for " ++ family ++ " \x7b") = none := by
    rw [String.append_assoc]
    exact declaredFunction?_of_diverge (by decide) _
  rw [formatter, declaredFunctions_cons_of_none hopening]
  decide

/-- The definitions declare the constructors, in the order of the variants. -/
theorem declaredFunctions_definitions {family : ResolvedFamily}
    (h : ∀ variant ∈ family.variants,
      Identifier.Spells variant.name.toList ∧ variant.name ∉ Identifier.keywords) :
    declaredFunctions (definitions options policy handle family) =
      family.variants.map fun variant => Identifier.constructorName variant.name := by
  have hcases : ∀ variant ∈ family.variants,
      ' ' ∉ variant.name.toList ∧ variant.name ≠ "pub" := by
    intro variant hvariant
    obtain ⟨hname, hkeyword⟩ := h variant hvariant
    exact ⟨hname.not_mem (by decide), fun heq => hkeyword (heq ▸ by decide)⟩
  have hempty : declaredFunctions [""] = [] := by decide
  rw [definitions, declaredFunctions_append, declaredFunctions_append, declaredFunctions_append,
    declaredFunctions_append, declaredFunctions_enumeration options hcases, hempty,
    declaredFunctions_formatter, declaredFunctions_constructorBlock options policy handle
      fun variant hvariant => (h variant hvariant).1.not_mem (by decide)]
  simp only [List.nil_append, List.append_nil]

end ClosedUnion

end Source

end TreeTypes
