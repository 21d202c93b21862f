import Mathlib.Data.Set.Function
import TreeTypes.Proofs.Grammar.Clashes
import TreeTypes.Proofs.Grammar.Escaping

/-!
# Camel-case names

A constructor name marks every capital of a variant name behind the first by an underscore. In a
name of letters and digits there is no other underscore, so that the name can be read back: the
first character and each one behind an underscore were capitals. Escaping adds a mark that no such
constructor name has, and variants with different names of this form never clash.
-/

namespace TreeTypes

namespace Identifier

/-- A capital, and behind it letters and digits. -/
inductive CamelCase : List Char → Prop
  | intro {first : Char} {rest : List Char} : 'A' ≤ first → first ≤ 'Z' →
      (∀ c ∈ rest, IsLetter c ∨ IsDigit c) → CamelCase (first :: rest)

instance (cs : List Char) : Decidable (CamelCase cs) :=
  decidable_of_iff (cs.head?.any Char.isUpper = true ∧ cs.tail.all Char.isAlphanum = true) <| by
    cases cs with
    | nil => exact iff_of_false (by simp) nofun
    | cons first rest =>
      have halphanum : ∀ c : Char, c.isAlphanum = (c.isAlpha || c.isDigit) := fun _ => rfl
      simp only [List.head?_cons, Option.any_some, List.tail_cons, List.all_eq_true, isUpper_iff,
        halphanum, Bool.or_eq_true, isAlpha_iff, isDigit_iff]
      exact ⟨fun ⟨⟨hfirst, hlast⟩, hrest⟩ => .intro hfirst hlast hrest,
        fun ⟨hfirst, hlast, hrest⟩ => ⟨⟨hfirst, hlast⟩, hrest⟩⟩

/-- The name that gives a constructor. `capital` says whether the next character is a capital. -/
def readBack (capital : Bool) : List Char → List Char
  | [] => []
  | c :: rest =>
    if c = '_' then readBack true rest
    else (if capital then c.toUpper else c) :: readBack false rest

variable {c : Char} {cs rest : List Char} {name other : String}

theorem CamelCase.spells (h : CamelCase cs) : Spells cs := by
  obtain ⟨hfirst, hlast, hrest⟩ := h
  exact .intro (.inl (.inr ⟨hfirst, hlast⟩)) fun c hc => (hrest c hc).imp_right .inl

theorem ne_underscore (h : IsLetter c ∨ IsDigit c) : c ≠ '_' := by
  rintro rfl
  rw [← isAlpha_iff, ← isDigit_iff] at h
  revert h
  decide

theorem readBack_underscore (capital : Bool) (rest : List Char) :
    readBack capital ('_' :: rest) = readBack true rest :=
  if_pos rfl

theorem readBack_cons (hc : c ≠ '_') (capital : Bool) (rest : List Char) :
    readBack capital (c :: rest) = (if capital then c.toUpper else c) :: readBack false rest :=
  if_neg hc

/-- A capital is read back from its small letter. -/
theorem readBack_toLower (h : c.isUpper = true) (rest : List Char) :
    readBack true (c.toLower :: rest) = c :: readBack false rest := by
  have hne : c.toLower ≠ '_' := by
    rw [ne_eq, toLower_eq_underscore_iff]
    rintro rfl
    cases h
  rw [readBack_cons hne, if_pos rfl, toUpper_toLower_of_isUpper h]

theorem readBack_constructorChar_append (hc : c ≠ '_') (rest : List Char) :
    readBack false (constructorChar c ++ rest) = c :: readBack false rest := by
  unfold constructorChar
  split
  case isTrue hupper =>
    exact (readBack_underscore false _).trans (readBack_toLower hupper rest)
  case isFalse => exact readBack_cons hc false rest

theorem readBack_flatMap_constructorChar (h : ∀ c ∈ rest, c ≠ '_') :
    readBack false (rest.flatMap constructorChar) = rest := by
  induction rest with
  | nil => rfl
  | cons c rest ih =>
    obtain ⟨hc, hrest⟩ := List.forall_mem_cons.mp h
    rw [List.flatMap_cons, readBack_constructorChar_append hc, ih hrest]

theorem readBack_constructorChars (h : CamelCase cs) :
    readBack true (constructorChars cs) = cs := by
  obtain ⟨hfirst, hlast, hrest⟩ := h
  rw [constructorChars, readBack_toLower (isUpper_iff.mpr ⟨hfirst, hlast⟩),
    readBack_flatMap_constructorChar fun c hc => ne_underscore (hrest c hc)]

/-- An underscore at the end marks no capital. -/
theorem readBack_append_underscore (capital : Bool) (cs : List Char) :
    readBack capital (cs ++ ['_']) = readBack capital cs := by
  induction cs generalizing capital with
  | nil => rfl
  | cons c rest ih =>
    rw [List.cons_append, readBack, readBack, ih, ih]

theorem constructorChars_inj {cs' : List Char} (h : CamelCase cs) (h' : CamelCase cs')
    (heq : constructorChars cs = constructorChars cs') : cs = cs' := by
  rw [← readBack_constructorChars h, heq, readBack_constructorChars h']

/-- A constructor name does not end in the underscore that escapes a keyword, since that would be
lost on the way back. -/
theorem constructorChars_ne_append_underscore {cs' : List Char} (h : CamelCase cs)
    (h' : CamelCase cs') : constructorChars cs' ≠ constructorChars cs ++ ['_'] := by
  intro heq
  have hback : cs' = cs := by
    rw [← readBack_constructorChars h', heq, readBack_append_underscore,
      readBack_constructorChars h]
  rw [hback] at heq
  simpa using congrArg List.length heq

theorem constructorName_inj_of_camelCase (h : CamelCase name.toList) (h' : CamelCase other.toList)
    (heq : constructorName name = constructorName other) : name = other := by
  have hspelled := h.spells.constructorChars
  have hspelled' := h'.spells.constructorChars
  have hcases := (escape_eq_escape_iff (by simpa using hspelled) (by simpa using hspelled')).mp heq
  simp only [← String.toList_inj, String.toList_append, String.toList_ofList] at hcases
  rcases hcases with hsame | ⟨-, hmarked⟩ | ⟨-, hmarked⟩
  · exact String.toList_inj.mp (constructorChars_inj h h' hsame)
  · exact absurd hmarked (constructorChars_ne_append_underscore h h')
  · exact absurd hmarked (constructorChars_ne_append_underscore h' h)

end Identifier

namespace Family

/-- Different camel-case names have different constructors, so entries that can be read one by one
make up a family when their variants have different names of this form. -/
theorem parse_of_camelCase :
    Set.InjOn Identifier.constructorName {name | Identifier.CamelCase name.toList} ∧
    ∀ (name : String) (entries : List String) (variants : List Variant),
      List.Forall₂ (fun entry variant => Variant.parse entry = .ok variant) entries variants →
      (∀ variant ∈ variants, Identifier.CamelCase variant.name.toList) →
      (variants.map (·.name)).Nodup → parse name entries = .ok ⟨name, variants⟩ := by
  refine ⟨fun name h other h' => Identifier.constructorName_inj_of_camelCase h h', ?_⟩
  intro name entries variants hread hcamel hnodup
  refine parse_eq_ok_iff.mpr ⟨rfl, hread, ?_⟩
  have hnames : ∀ name ∈ variants.map (·.name), Identifier.CamelCase name.toList := by
    simpa using hcamel
  have hconstructors := hnodup.map_on fun name hname other hother =>
    Identifier.constructorName_inj_of_camelCase (hnames name hname) (hnames other hother)
  rwa [List.map_map] at hconstructors

/-- Names that differ in the place of a capital only, and one that gives a keyword. -/
def acronymEntries : List String :=
  ["IOStmt : i64 value", "IoStmt :", "Iostmt :", "Super : bool test", "I64 :"]

/-- The variants of these entries. -/
def acronyms : List Variant := [
  ⟨"IOStmt", [⟨"value", "i64"⟩]⟩, ⟨"IoStmt", []⟩, ⟨"Iostmt", []⟩, ⟨"Super", [⟨"test", "bool"⟩]⟩,
  ⟨"I64", []⟩]

theorem acronyms_accepted :
    List.Forall₂ (fun entry variant => Variant.parse entry = .ok variant) acronymEntries acronyms ∧
    (∀ variant ∈ acronyms, Identifier.CamelCase variant.name.toList) ∧
    (acronyms.map (·.name)).Nodup ∧ parse "Stmt" acronymEntries = .ok ⟨"Stmt", acronyms⟩ ∧
    acronyms.map (fun variant => Identifier.constructorName variant.name) =
      ["i_o_stmt", "io_stmt", "iostmt", "super_", "i64"] := by
  have hread : List.Forall₂ (fun entry variant => Variant.parse entry = .ok variant)
      acronymEntries acronyms :=
    .cons (by decide +kernel) <| .cons (by decide +kernel) <| .cons (by decide +kernel) <|
      .cons (by decide +kernel) <| .cons (by decide +kernel) .nil
  have hcamel : ∀ variant ∈ acronyms, Identifier.CamelCase variant.name.toList := by decide +kernel
  have hnodup : (acronyms.map (·.name)).Nodup := by decide
  exact ⟨hread, hcamel, hnodup, parse_of_camelCase.2 "Stmt" _ _ hread hcamel hnodup,
    by decide +kernel⟩

end Family

end TreeTypes
