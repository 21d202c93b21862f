import Mathlib.Data.List.Nodup
import Mathlib.Data.List.Perm.Basic
import TreeTypes.Grammar.Family
import TreeTypes.Proofs.Resolution
import TreeTypes.Proofs.Source.Functions

/-!
# Families without clashes

The entries of a family are accepted when every one of them can be read and no two variants give the
same constructor. Neither depends on the order of the entries, so that entries in another order are
accepted too. An entry that is refused is the first that cannot be read or clashes with one before
it.
-/

namespace TreeTypes

/-- Entries that can be read one by one, and whose variants give distinct constructors. -/
structure ClashFree (entries : List String) (variants : List Variant) : Prop where
  read : List.Forall₂ (fun entry variant => Variant.parse entry = .ok variant) entries variants
  distinct : (variants.map fun variant => Identifier.constructorName variant.name).Nodup

/-- Why a variant cannot follow others: one of them has its name, or only its constructor. -/
inductive Clashes (earlier : List Variant) (later : Variant) : Malformed → Prop
  | duplicate {first : Variant} : first ∈ earlier → first.name = later.name →
      Clashes earlier later (.duplicateVariant later.name)
  | constructor {first : Variant} : first ∈ earlier → first.name ≠ later.name →
      Identifier.constructorName first.name = Identifier.constructorName later.name →
      Clashes earlier later
        (.constructorClash (Identifier.constructorName later.name) first.name later.name)

variable {entries others : List String} {variants earlier : List Variant} {later : Variant}
variable {rejection : Rejection} {reason : Malformed}

namespace ClashFree

theorem nodup_names (h : ClashFree entries variants) : (variants.map (·.name)).Nodup := by
  refine List.Nodup.of_map Identifier.constructorName ?_
  rw [List.map_map]
  exact h.distinct

theorem names_spelled (h : ClashFree entries variants) : ∀ variant ∈ variants,
    Identifier.Spells variant.name.toList ∧ variant.name ∉ Identifier.keywords := by
  obtain ⟨hread, -⟩ := h
  induction hread with
  | nil => simp
  | cons hvariant hread ih =>
    exact List.forall_mem_cons.mpr ⟨(Variant.parse_eq_ok_iff.mp hvariant).name_spelled, ih⟩

theorem zip_read (h : ClashFree entries variants) :
    List.Forall₂ (fun entry pair => pair.1 = entry ∧ Variant.parse entry = .ok pair.2) entries
      (entries.zip variants) := by
  obtain ⟨hread, -⟩ := h
  induction hread with
  | nil => exact .nil
  | cons hvariant hread ih => exact .cons ⟨rfl, hvariant⟩ ih

/-- The entries of a family may be put in any order. -/
theorem perm (h : ClashFree entries variants) (hothers : others.Perm entries) :
    ∃ moved, ClashFree others moved ∧ (others.zip moved).Perm (entries.zip variants) := by
  -- What moves along with an entry is the pair of it and its variant.
  obtain ⟨pairs, hpairs, hperm⟩ := List.perm_comp_forall₂ hothers h.zip_read
  have hothers : others = pairs.map Prod.fst := by
    rw [← map_eq_map_of_forall₂ (hpairs.imp fun _ _ hpair => hpair.1.symm), List.map_id']
  have hzip : others.zip (pairs.map Prod.snd) = pairs := by
    have hunzip := List.zip_unzip pairs
    rwa [List.unzip_eq_map, ← hothers] at hunzip
  have hvariants : (pairs.map Prod.snd).Perm variants := by
    have hmoved := hperm.map Prod.snd
    rwa [List.map_snd_zip h.read.length_eq.ge] at hmoved
  refine ⟨pairs.map Prod.snd, ⟨?_, (hvariants.map _).nodup_iff.mpr h.distinct⟩, ?_⟩
  · rw [List.forall₂_map_right_iff]
    exact hpairs.imp fun _ _ hpair => hpair.2
  · rwa [hzip]

end ClashFree

namespace Family

theorem clash?_eq_none_iff : clash? earlier later = none ↔ ∀ first ∈ earlier,
    Identifier.constructorName first.name ≠ Identifier.constructorName later.name := by
  have hfind : clash? earlier later = none ↔ earlier.find?
      (Identifier.constructorName ·.name == Identifier.constructorName later.name) = none := by
    simp only [clash?]
    split
    case h_1 hnone => exact iff_of_true rfl hnone
    case h_2 first hfirst =>
      refine iff_of_false ?_ (by simp [hfirst])
      split <;> rintro ⟨⟩
  rw [hfind, List.find?_eq_none]
  simp

theorem mem_of_find? {first : Variant} (h : earlier.find?
      (Identifier.constructorName ·.name == Identifier.constructorName later.name) = some first) :
    first ∈ earlier ∧
      Identifier.constructorName first.name = Identifier.constructorName later.name :=
  ⟨List.mem_of_find?_eq_some h, by simpa using List.find?_some h⟩

/-- Among variants with distinct constructors there is only one to clash with. -/
theorem find?_constructor {first : Variant}
    (hdistinct : (earlier.map fun variant => Identifier.constructorName variant.name).Nodup)
    (hfirst : first ∈ earlier)
    (hsame : Identifier.constructorName first.name = Identifier.constructorName later.name) :
    earlier.find? (Identifier.constructorName ·.name == Identifier.constructorName later.name) =
      some first := by
  cases hfind : earlier.find?
      (Identifier.constructorName ·.name == Identifier.constructorName later.name) with
  | none =>
    have hother := List.find?_eq_none.mp hfind first hfirst
    simp [hsame] at hother
  | some found =>
    obtain ⟨hmem, hfound⟩ := mem_of_find? hfind
    rw [List.inj_on_of_nodup_map hdistinct hmem hfirst (hfound.trans hsame.symm)]

theorem clash?_eq_some_iff
    (hdistinct : (earlier.map fun variant => Identifier.constructorName variant.name).Nodup) :
    clash? earlier later = some reason ↔ Clashes earlier later reason := by
  constructor
  · intro hreason
    simp only [clash?] at hreason
    split at hreason
    case h_1 => cases hreason
    case h_2 first hfound =>
      obtain ⟨hfirst, hsame⟩ := mem_of_find? hfound
      split at hreason
      case isTrue hname =>
        obtain rfl := Option.some.inj hreason
        exact .duplicate hfirst hname
      case isFalse hname =>
        obtain rfl := Option.some.inj hreason
        exact .constructor hfirst hname hsame
  · rintro (⟨hfirst, hname⟩ | ⟨hfirst, hname, hsame⟩)
    · simp only [clash?, find?_constructor hdistinct hfirst (congrArg _ hname), hname, ↓reduceIte]
    · simp only [clash?, find?_constructor hdistinct hfirst hsame, hname, ↓reduceIte]

/-- The rejection of an entry whose variant clashes. -/
def rejected? (earlier : List Variant) (entry : String) (later : Variant) : Option Rejection :=
  (clash? earlier later).map fun reason => ⟨entry, reason⟩

theorem compares_rejected : Compares rejected? fun first later =>
    Identifier.constructorName first.name ≠ Identifier.constructorName later.name := by
  intro earlier entry later
  rw [rejected?, Option.map_eq_none_iff, clash?_eq_none_iff]

theorem parseVariants_eq_readInOrder :
    parseVariants earlier entries = readInOrder Variant.parse rejected? earlier entries := by
  induction entries generalizing earlier with
  | nil => rfl
  | cons entry rest ih =>
    simp only [parseVariants, readInOrder, readStep, rejected?, ih]
    cases Variant.parse entry with
    | error rejection => rfl
    | ok variant =>
      simp only [bind, Except.bind]
      cases clash? earlier variant with
      | none => rfl
      | some reason => rfl

theorem parseVariants_eq_ok_iff : parseVariants [] entries = .ok variants ↔
    ClashFree entries variants := by
  rw [parseVariants_eq_readInOrder, readInOrder_eq_ok_iff compares_rejected]
  constructor
  · rintro ⟨hread, hdistinct, -⟩
    exact ⟨hread, List.pairwise_map.mpr hdistinct⟩
  · rintro ⟨hread, hdistinct⟩
    exact ⟨hread, List.pairwise_map.mp hdistinct, by simp⟩

theorem parseVariants_eq_error_iff : parseVariants [] entries = .error rejection ↔
    ∃ before entry behind variants, entries = before ++ entry :: behind ∧
      ClashFree before variants ∧ (Variant.parse entry = .error rejection ∨
        ∃ later, Variant.parse entry = .ok later ∧ rejection.entry = entry ∧
          Clashes variants later rejection.reason) := by
  rw [parseVariants_eq_readInOrder, readInOrder_eq_error_iff]
  simp only [← parseVariants_eq_readInOrder, parseVariants_eq_ok_iff, readStep_eq_error_iff,
    List.nil_append]
  constructor
  · rintro ⟨before, entry, behind, variants, hentries, hbefore, hentry | ⟨later, hlater, hclash⟩⟩
    · exact ⟨before, entry, behind, variants, hentries, hbefore, .inl hentry⟩
    · obtain ⟨reason, hreason, rfl⟩ := Option.map_eq_some_iff.mp hclash
      exact ⟨before, entry, behind, variants, hentries, hbefore, .inr ⟨later, hlater, rfl,
        (clash?_eq_some_iff hbefore.distinct).mp hreason⟩⟩
  · rintro ⟨before, entry, behind, variants, hentries, hbefore,
      hentry | ⟨later, hlater, rfl, hclash⟩⟩
    · exact ⟨before, entry, behind, variants, hentries, hbefore, .inl hentry⟩
    · refine ⟨before, _, behind, variants, hentries, hbefore, .inr ⟨later, hlater, ?_⟩⟩
      exact Option.map_eq_some_iff.mpr
        ⟨_, (clash?_eq_some_iff hbefore.distinct).mpr hclash, rfl⟩

theorem parse_eq_ok_iff {name : String} {family : Family} : parse name entries = .ok family ↔
    family.name = name ∧ ClashFree entries family.variants := by
  rw [← parseVariants_eq_ok_iff, parse]
  cases parseVariants [] entries with
  | error rejection => simp [Except.map]
  | ok variants =>
    simp only [Except.map, Except.ok.injEq]
    constructor
    · rintro rfl
      exact ⟨rfl, rfl⟩
    · rintro ⟨rfl, rfl⟩
      rfl

theorem parse_eq_error_iff {name : String} : parse name entries = .error rejection ↔
    parseVariants [] entries = .error rejection := by
  rw [parse]
  cases parseVariants [] entries <;> simp [Except.map]

/-- The variants of a resolved family have the names that were read. -/
theorem resolved_names_spelled {family : Family} (h : ClashFree entries family.variants)
    {resolver : Resolver} {resolved : ResolvedFamily}
    (hresolved : resolver.resolveFamily family = .ok resolved) :
    ∀ variant ∈ resolved.variants,
      Identifier.Spells variant.name.toList ∧ variant.name ∉ Identifier.keywords := by
  intro variant hvariant
  have hname : variant.name ∈ family.variants.map (·.name) :=
    Resolver.resolveFamily_names hresolved ▸ List.mem_map_of_mem hvariant
  obtain ⟨declared, hdeclared, heq⟩ := List.mem_map.mp hname
  exact heq ▸ h.names_spelled declared hdeclared

/-- The lines of a family's definitions declare its constructors. -/
theorem declaredFunctions_of_clashFree {family : Family} (h : ClashFree entries family.variants)
    {resolver : Resolver} {resolved : ResolvedFamily}
    (hresolved : resolver.resolveFamily family = .ok resolved) (options : SourceOptions)
    (policy : Policy) (handle : SharedHandle) :
    Source.declaredFunctions (Source.ClosedUnion.definitions options policy handle resolved) =
      family.constructors := by
  rw [Source.ClosedUnion.declaredFunctions_definitions options policy handle
    (resolved_names_spelled h hresolved), constructors]
  simpa only [List.map_map, Function.comp_def] using
    congrArg (List.map Identifier.constructorName) (Resolver.resolveFamily_names hresolved)

/-- A family is accepted when its entries can be read and its constructors are distinct. Then its
names and the functions of its closed union are distinct too, and the entries may be put in any
order. Otherwise the first entry is rejected that cannot be read or clashes. -/
theorem parse_accepts_clashFree (name : String) (entries : List String) :
    (∀ family, parse name entries = .ok family ↔
      family.name = name ∧ ClashFree entries family.variants) ∧
    (∀ family, parse name entries = .ok family →
      (family.variants.map (·.name)).Nodup ∧
      (∀ (resolver : Resolver) (resolved : ResolvedFamily) (options : SourceOptions)
        (policy : Policy) (handle : SharedHandle),
        resolver.resolveFamily family = .ok resolved →
          Source.declaredFunctions (Source.ClosedUnion.definitions options policy handle resolved) =
            family.constructors) ∧
      family.constructors.Nodup ∧
      ∀ others, others.Perm entries → ∃ moved, parse name others = .ok moved ∧
        (others.zip moved.variants).Perm (entries.zip family.variants)) ∧
    ∀ rejection, parse name entries = .error rejection ↔
      ∃ before entry behind variants, entries = before ++ entry :: behind ∧
        ClashFree before variants ∧ (Variant.parse entry = .error rejection ∨
          ∃ later, Variant.parse entry = .ok later ∧ rejection.entry = entry ∧
            Clashes variants later rejection.reason) := by
  refine ⟨fun family => parse_eq_ok_iff, fun family hfamily => ?_, fun rejection => ?_⟩
  · obtain ⟨rfl, hfree⟩ := parse_eq_ok_iff.mp hfamily
    refine ⟨hfree.nodup_names, fun resolver resolved options policy handle hresolved =>
      declaredFunctions_of_clashFree hfree hresolved options policy handle, hfree.distinct, ?_⟩
    intro others hothers
    obtain ⟨variants, hmoved, hperm⟩ := hfree.perm hothers
    exact ⟨⟨family.name, variants⟩, parse_eq_ok_iff.mpr ⟨rfl, hmoved⟩, hperm⟩
  · rw [parse_eq_error_iff, parseVariants_eq_error_iff]

/-- Two entries of a family, of which the second has a keyword for its constructor. -/
def termEntries : List String := ["Num : i64 value", "Type : Term inner"]

/-- The family of these entries. -/
def terms : Family := ⟨"Term", [⟨"Num", [⟨"value", "i64"⟩]⟩, ⟨"Type", [⟨"inner", "Term"⟩]⟩]⟩

theorem terms_accepted : parse "Term" termEntries = .ok terms ∧
    terms.constructors = ["num", "r#type"] ∧ (terms.variants.map (·.name)).Nodup ∧
    (∃ resolved, (Resolver.mk .shared .rc ["Term"] []).resolveFamily terms = .ok resolved ∧
      Source.declaredFunctions (Source.ClosedUnion.definitions {} .shared .rc resolved) =
        terms.constructors) ∧
    ∃ moved, parse "Term" termEntries.reverse = .ok moved ∧
      (termEntries.reverse.zip moved.variants).Perm (termEntries.zip terms.variants) := by
  have hparse : parse "Term" termEntries = .ok terms := by decide +kernel
  have hconstructors : terms.constructors = ["num", "r#type"] := by decide +kernel
  obtain ⟨-, haccepted, -⟩ := parse_accepts_clashFree "Term" termEntries
  obtain ⟨hnames, hfunctions, -, hmoved⟩ := haccepted terms hparse
  have hresolved : (Resolver.mk .shared .rc ["Term"] []).resolveFamily terms =
      .ok ⟨"Term", [⟨"Num", [⟨"value", "i64", "i64", .final⟩]⟩,
        ⟨"Type", [⟨"inner", "Term", "Rc<Term>", .selfReference⟩]⟩], []⟩ := by decide +kernel
  exact ⟨hparse, hconstructors, hnames, ⟨_, hresolved, hfunctions _ _ {} .shared .rc hresolved⟩,
    hmoved _ (List.reverse_perm _)⟩

-- The escaped keyword of one variant is the plain constructor of the other.
example : parse "Term" ["Super:", "Super_:"] =
    .error ⟨"Super_:", .constructorClash "super_" "Super" "Super_"⟩ := by decide +kernel

end Family

end TreeTypes
