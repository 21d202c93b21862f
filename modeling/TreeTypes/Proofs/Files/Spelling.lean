import TreeTypes.Files.Walk
import TreeTypes.Proofs.Text.Pieces

/-!
# Paths that spell their location

A plain path has no dots and no slash at its end. Where no link is on its way it leads to the
location that its names spell. Its siblings are plain again and differ from it in the last name, and
the directories that are made for it spell locations above it.
-/

namespace TreeTypes.Path

variable {path parent sub : Path} {suffix other : String}

/-- None of the names is one or two dots. -/
def NoDots (path : Path) : Prop :=
  ∀ name ∈ path.names, name ≠ "." ∧ name ≠ ".."

/-- The path spells a location name by name. -/
def IsPlain (path : Path) : Prop :=
  path.NoDots ∧ path.endsInSlash = false

instance (path : Path) : Decidable path.NoDots :=
  inferInstanceAs (Decidable (∀ name ∈ path.names, name ≠ "." ∧ name ≠ ".."))

instance (path : Path) : Decidable path.IsPlain :=
  inferInstanceAs (Decidable (path.NoDots ∧ path.endsInSlash = false))

/-- The location of the directory in which a plain path lies. -/
def folder (path : Path) : Location := path.names.dropLast

/-- The last name of a plain path. The empty path, which leads nowhere, is given the empty name. -/
def lastName (path : Path) : String := path.names.getLastD ""

/-- The location that a plain path spells. -/
def location (path : Path) : Location := path.folder ++ [path.lastName]

/-- The system takes the path and each of its names. -/
def Fits (path : Path) : Prop :=
  path.unusable? = none ∧ ∀ name ∈ path.names, name.utf8ByteSize ≤ maxNameBytes

theorem names_eq_folder_concat (h : path.names ≠ []) :
    path.names = path.folder ++ [path.lastName] := by
  rw [folder, lastName, List.getLastD_eq_getLast?, List.getLast?_eq_some_getLast h,
    Option.getD_some, List.dropLast_concat_getLast]

theorem folder_prefix_location (path : Path) : path.folder <+: path.location :=
  List.prefix_append _ _

theorem names_eq_of_split {pieces : List (List Char)}
    (h : Text.split '/' path.text.toList = pieces) :
    path.names = (pieces.map String.ofList).filter (· != "") := by
  rw [names, Path.pieces, h]

theorem text_eq_empty (h : path.IsPlain) (hnames : path.names = []) : path.text = "" := by
  obtain ⟨pieces, last, hpath, -, hlast⟩ :=
    Text.exists_split_append path.text.toList [] List.not_mem_nil
  have hempty : last = [] := by
    rw [names_eq_of_split hpath] at hnames
    simp only [List.map_append, List.map_cons, List.map_nil, List.filter_append,
      List.append_eq_nil_iff] at hnames
    have hname : String.ofList last = "" := by simpa using hnames.2
    simpa [← String.toList_inj] using hname
  rw [← String.toList_inj]
  refine (hlast hempty).resolve_right fun hslash => ?_
  simpa [endsInSlash, hslash] using h.2

theorem names_sibling (h : path.IsPlain) (hsuffix : '/' ∉ suffix.toList) :
    (path.sibling suffix).names = path.folder ++ [path.lastName ++ "." ++ suffix] := by
  obtain ⟨pieces, last, hpath, hsibling, hlast⟩ :=
    Text.exists_split_append path.text.toList ('.' :: suffix.toList)
      (show '/' ∉ '.' :: suffix.toList by simpa using hsuffix)
  have htext : (path.sibling suffix).text.toList = path.text.toList ++ '.' :: suffix.toList := by
    simp [sibling]
  rw [names_eq_of_split (htext ▸ hsibling)]
  have hname : String.ofList (last ++ '.' :: suffix.toList) =
      String.ofList last ++ "." ++ suffix := by
    rw [← String.toList_inj]
    simp
  have hnonempty : String.ofList last ++ "." ++ suffix ≠ "" := by
    rw [ne_eq, ← String.toList_inj]
    simp
  have hpathNames := names_eq_of_split hpath
  by_cases hempty : last = []
  · have htext : path.text.toList = [] :=
      (hlast hempty).resolve_right fun hslash => by simpa [endsInSlash, hslash] using h.2
    have hpieces : pieces = [] := by
      simpa [htext, Text.split, Text.splitWhen, hempty] using congrArg List.length hpath
    subst hempty hpieces
    simp only [List.nil_append, List.map_cons, List.map_nil] at hpathNames hname ⊢
    simp [hname, folder, lastName, hpathNames]
  · have hpiece : String.ofList last ≠ "" := by
      rw [ne_eq, ← String.toList_inj]
      simpa using hempty
    simp only [List.map_append, List.map_cons, List.map_nil, List.filter_append] at hpathNames ⊢
    simp [hname, hnonempty, folder, lastName, hpathNames, hpiece]

theorem folder_sibling (h : path.IsPlain) (hsuffix : '/' ∉ suffix.toList) :
    (path.sibling suffix).folder = path.folder := by
  rw [folder, names_sibling h hsuffix, List.dropLast_concat]

theorem lastName_sibling (h : path.IsPlain) (hsuffix : '/' ∉ suffix.toList) :
    (path.sibling suffix).lastName = path.lastName ++ "." ++ suffix := by
  rw [lastName, names_sibling h hsuffix, List.getLastD_concat]

theorem location_sibling (h : path.IsPlain) (hsuffix : '/' ∉ suffix.toList) :
    (path.sibling suffix).location = path.folder ++ [path.lastName ++ "." ++ suffix] := by
  rw [location, folder_sibling h hsuffix, lastName_sibling h hsuffix]

/-- A name with a suffix is longer than two characters. -/
theorem ne_dots_of_suffix (name : String) (hsuffix : 2 ≤ suffix.toList.length) :
    name ++ "." ++ suffix ≠ "." ∧ name ++ "." ++ suffix ≠ ".." := by
  constructor <;>
  · intro heq
    have hlength := congrArg (fun text => text.toList.length) heq
    simp at hlength hsuffix
    omega

theorem isPlain_sibling (h : path.IsPlain) (hsuffix : '/' ∉ suffix.toList)
    (hlength : 2 ≤ suffix.toList.length) : (path.sibling suffix).IsPlain := by
  constructor
  · intro name hname
    rw [names_sibling h hsuffix, List.mem_append, List.mem_singleton] at hname
    rcases hname with hname | rfl
    · exact h.1 name ((List.dropLast_subset _) hname)
    · exact ne_dots_of_suffix _ hlength
  · have hne : suffix.toList ≠ [] := fun hempty => by simp [hempty] at hlength
    have hlast : suffix.toList.getLast? ≠ some '/' := fun hslash =>
      hsuffix (List.mem_of_getLast? hslash)
    have htext : (path.sibling suffix).text.toList =
        (path.text.toList ++ ['.']) ++ suffix.toList := by
      simp [sibling]
    rw [List.getLast?_eq_some_getLast hne] at hlast
    rw [endsInSlash, htext, List.getLast?_append, List.getLast?_eq_some_getLast hne,
      Option.some_or]
    simpa using hlast

theorem unusable?_eq_none_iff : path.unusable? = none ↔
    '\x00' ∉ path.text.toList ∧ path.text ≠ "" ∧ path.text.utf8ByteSize < maxBytes := by
  simp only [unusable?]
  split
  case isTrue hnul => simpa using fun h => absurd (List.contains_iff_mem.mp hnul) h
  case isFalse hnul =>
    split
    case isTrue hempty => simp_all
    case isFalse hempty =>
      split <;> simp_all

theorem unusable?_of_names_eq_nil (h : path.IsPlain) (hnames : path.names = []) :
    path.unusable? = some .notFound := by
  simp [unusable?, text_eq_empty h hnames]

theorem Fits.names_ne_nil (h : path.IsPlain) (hfits : path.Fits) : path.names ≠ [] := by
  intro hnames
  exact (unusable?_eq_none_iff.mp hfits.1).2.1 (text_eq_empty h hnames)

theorem fits_sibling_iff (h : path.IsPlain) (hsuffix : '/' ∉ suffix.toList) :
    (path.sibling suffix).Fits ↔
      ('\x00' ∉ path.text.toList ∧ '\x00' ∉ suffix.toList ∧
        path.text.utf8ByteSize + 1 + suffix.utf8ByteSize < maxBytes) ∧
      (∀ name ∈ path.folder, name.utf8ByteSize ≤ maxNameBytes) ∧
        path.lastName.utf8ByteSize + 1 + suffix.utf8ByteSize ≤ maxNameBytes := by
  have hdot : (".").utf8ByteSize = 1 := rfl
  have hne : (path.sibling suffix).text ≠ "" := by
    rw [ne_eq, ← String.toList_inj]
    simp [sibling]
  rw [Fits, unusable?_eq_none_iff, names_sibling h hsuffix]
  simp only [sibling, String.toList_append, String.utf8ByteSize_append, hdot, List.mem_append,
    List.mem_singleton, or_imp, forall_and, forall_eq] at hne ⊢
  simp [hne, and_assoc]

/-- A path fits when one of its siblings does. -/
theorem Fits.of_sibling (h : path.IsPlain) (hsuffix : '/' ∉ suffix.toList)
    (hfits : (path.sibling suffix).Fits) (hne : path.names ≠ []) : path.Fits := by
  obtain ⟨⟨hnul, -, hbytes⟩, hfolder, hlast⟩ := (fits_sibling_iff h hsuffix).mp hfits
  refine ⟨unusable?_eq_none_iff.mpr ⟨hnul, ?_, by omega⟩, ?_⟩
  · rintro hempty
    simp [names, pieces, hempty, Text.split, Text.splitWhen] at hne
  · intro name hname
    rw [names_eq_folder_concat hne, List.mem_append, List.mem_singleton] at hname
    rcases hname with hname | rfl
    · exact hfolder name hname
    · omega

/-- Siblings whose suffixes take the same room fit alike. -/
theorem Fits.sibling_of_sibling (h : path.IsPlain) (hsuffix : '/' ∉ suffix.toList)
    (hother : '/' ∉ other.toList) (hnul : '\x00' ∉ other.toList)
    (hsize : other.utf8ByteSize = suffix.utf8ByteSize) (hfits : (path.sibling suffix).Fits) :
    (path.sibling other).Fits := by
  rw [fits_sibling_iff h hsuffix] at hfits
  rw [fits_sibling_iff h hother, hsize]
  exact ⟨⟨hfits.1.1, hnul, hfits.1.2.2⟩, hfits.2⟩

theorem pieces_of_endsInSlash (h : path.endsInSlash = true) : path.pieces.getLast? = some "" := by
  have hlast : path.text.toList.getLast? = some '/' := by simpa [endsInSlash] using h
  obtain ⟨front, htext⟩ := List.getLast?_eq_some_iff.mp hlast
  rw [pieces, htext, Text.split_append_cons, Text.split_nil]
  simp

/-- Cutting a path at its slashes gives the pieces back from which it was joined. -/
theorem pieces_intercalate {start : String} {pieces : List String}
    (hstart : start = "" ∨ start = "/") (hslash : ∀ piece ∈ pieces, '/' ∉ piece.toList)
    (hne : pieces ≠ []) :
    Path.pieces ⟨start ++ String.intercalate "/" pieces⟩ =
      (if start = "/" then [""] else []) ++ pieces := by
  have hsplit : Text.split '/' (String.intercalate "/" pieces).toList =
      pieces.map String.toList := by
    rw [String.toList_intercalate]
    exact Text.split_intercalate (by simpa using hslash) (by simpa using hne)
  have hback : (pieces.map String.toList).map String.ofList = pieces := by
    simp [Function.comp_def]
  rcases hstart with rfl | rfl
  · simp only [Path.pieces, String.empty_append, hsplit, hback]
    rfl
  · have hroot : ("/" ++ String.intercalate "/" pieces).toList =
        [] ++ '/' :: (String.intercalate "/" pieces).toList := by
      rw [String.toList_append]
      rfl
    rw [Path.pieces, hroot, Text.split_append_cons, hsplit, List.map_append, hback]
    rfl

/-- The start and the pieces from which a path without dots is joined. -/
theorem front_of_noDots (h : path.NoDots) :
    (path.front.1 = "" ∨ path.front.1 = "/") ∧
      path.names = path.front.2.filter (· != "") ∧
      ∀ piece ∈ path.front.2, '/' ∉ piece.toList := by
  have hpieces : ∀ cs : List Char,
      ∀ piece ∈ (Text.split '/' cs).map String.ofList, '/' ∉ piece.toList := by
    intro cs piece hpiece
    obtain ⟨chars, hchars, rfl⟩ := List.mem_map.mp hpiece
    simpa using Text.not_mem_of_mem_split hchars
  have hdots : "." ∉ path.pieces := fun hmem =>
    (h "." (List.mem_filter.mpr ⟨hmem, by decide⟩)).1 rfl
  unfold front
  split
  next rest htext =>
    refine ⟨.inr rfl, ?_, hpieces rest⟩
    rw [names_eq_of_split (htext ▸ Text.split_append_cons [] rest)]
    simp
  next htext =>
    refine absurd ?_ hdots
    simp [pieces, htext, Text.split, Text.splitWhen]
  next rest htext =>
    refine absurd ?_ hdots
    simp [pieces, htext, Text.split, Text.splitWhen]
  next hroot hdot hdotSlash =>
    exact ⟨.inl rfl, rfl, hpieces _⟩

/-- Every path of a lineage is plain and spells a location at or above that of the first one, and
those behind the first spell one above it. -/
theorem lineageOf_spec {start : String} {reversed : List String}
    (hstart : start = "" ∨ start = "/") (hslash : ∀ piece ∈ reversed, '/' ∉ piece.toList)
    (hdots : ∀ piece ∈ reversed, piece ≠ "." ∧ piece ≠ "..") :
    (∀ sub ∈ lineageOf start reversed,
      sub.IsPlain ∧ sub.names <+: (reversed.filter (· != "")).reverse) ∧
    ∀ sub ∈ (lineageOf start reversed).tail,
      sub.names <+: (reversed.filter (· != "")).reverse.dropLast := by
  induction reversed with
  | nil => simp [lineageOf]
  | cons piece rest ih =>
    obtain ⟨ihall, ihtail⟩ := ih (fun p hp => hslash p (List.mem_cons_of_mem _ hp))
      (fun p hp => hdots p (List.mem_cons_of_mem _ hp))
    by_cases hpiece : piece = ""
    · have hskipped : isSkipped piece = true := by simp [isSkipped, hpiece]
      have hfilter : (piece :: rest).filter (· != "") = rest.filter (· != "") := by
        simp [hpiece]
      rw [hfilter]
      simp only [lineageOf, hskipped, ↓reduceIte]
      exact ⟨ihall, ihtail⟩
    · have hskipped : isSkipped piece = false := by
        simp [isSkipped, hpiece, (hdots piece List.mem_cons_self).1]
      have hpieces := pieces_intercalate hstart
        (fun p (hp : p ∈ (piece :: rest).reverse) => hslash p (List.mem_reverse.mp hp)) (by simp)
      have hnames : Path.names ⟨start ++ String.intercalate "/" (piece :: rest).reverse⟩ =
          (rest.filter (· != "")).reverse ++ [piece] := by
        rw [names, hpieces]
        split <;> simp [hpiece]
      have hfilter : ((piece :: rest).filter (· != "")).reverse =
          (rest.filter (· != "")).reverse ++ [piece] := by
        simp [hpiece]
      rw [hfilter, List.dropLast_concat]
      simp only [lineageOf, hskipped, Bool.false_eq_true, ↓reduceIte, List.mem_cons,
        List.tail_cons, forall_eq_or_imp]
      refine ⟨⟨⟨⟨?_, ?_⟩, hnames ▸ List.prefix_rfl⟩, ?_⟩, fun sub hsub => (ihall sub hsub).2⟩
      · intro name hname
        rw [hnames] at hname
        exact hdots name (by simp at hname ⊢; grind)
      · refine Bool.eq_false_iff.mpr fun hends => hpiece ?_
        have hlast := pieces_of_endsInSlash hends
        rw [hpieces, List.reverse_cons, ← List.append_assoc, List.getLast?_concat] at hlast
        simpa using hlast
      · intro sub hsub
        exact ⟨(ihall sub hsub).1, (ihall sub hsub).2.trans (List.prefix_append _ _)⟩

/-- `lineageOf_spec` for the pieces of a path. -/
theorem lineage_spec (h : path.NoDots) :
    (∀ sub ∈ path.lineage, sub.IsPlain ∧ sub.names <+: path.names) ∧
      ∀ sub ∈ path.lineage.tail, sub.names <+: path.folder := by
  obtain ⟨hstart, hnames, hslash⟩ := front_of_noDots h
  have hdots : ∀ piece ∈ path.front.2, piece ≠ "." ∧ piece ≠ ".." := by
    intro piece hpiece
    by_cases hempty : piece = ""
    · simp [hempty]
    · exact h piece (hnames ▸ List.mem_filter.mpr ⟨hpiece, by simpa using hempty⟩)
  have hspec := lineageOf_spec hstart
    (fun piece hpiece => hslash piece (List.mem_reverse.mp hpiece))
    (fun piece hpiece => hdots piece (List.mem_reverse.mp hpiece))
  rwa [List.filter_reverse, List.reverse_reverse, ← hnames] at hspec

/-- The directories that are made for a path without dots spell locations above it. -/
theorem lineage_of_parent? (h : path.NoDots) (hparent : path.parent? = some parent) :
    ∀ sub ∈ parent.lineage, sub.IsPlain ∧ sub.names <+: path.folder := by
  have hnames : parent.names <+: path.folder := by
    unfold parent? at hparent
    split at hparent
    next first second rest hlineage =>
      obtain rfl : second = parent := by simpa using hparent
      exact (lineage_spec h).2 second (by simp [hlineage])
    next first hlineage =>
      obtain rfl : ⟨path.front.1⟩ = parent := by simpa using hparent
      rcases (front_of_noDots h).1 with hstart | hstart <;> rw [hstart] <;> exact List.nil_prefix
    next hlineage =>
      rcases (front_of_noDots h).1 with hstart | hstart <;> simp [hstart] at hparent
  intro sub hsub
  have hdots : parent.NoDots := fun name hname =>
    h name (List.dropLast_subset _ (hnames.subset hname))
  obtain ⟨hplain, hpre⟩ := (lineage_spec hdots).1 sub hsub
  exact ⟨hplain, hpre.trans hnames⟩

end TreeTypes.Path
