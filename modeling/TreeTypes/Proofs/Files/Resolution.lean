import Mathlib.Data.List.Infix
import TreeTypes.Files.Operations
import TreeTypes.Proofs.Files.Items
import TreeTypes.Proofs.Files.Spelling

/-!
# Where plain paths lead

A plain path with no link on its way leads to the location that it spells, provided that the
directory there exists and that the system takes its names. The lemmas come in pairs: what holds
when the tree is known to have the directory, and what a path that leads somewhere says about the
tree.
-/

namespace TreeTypes.FileTree

variable {tree : FileTree} {path : Path} {here folder location : Location}
variable {names rest : List String} {name : String} {lastLink : LastLink} {place : Place}
variable {jump : Location → List String → Except FileError Place}

/-- No link stands at a location or above it. -/
def NoLinkTo (tree : FileTree) (location : Location) : Prop :=
  ∀ above, above <+: location → ∀ target, tree.item? above ≠ some (.link target)

/-- Whether a link stands at a location. -/
def isLink (tree : FileTree) (location : Location) : Bool :=
  match tree.item? location with
  | some (.link _) => true
  | _ => false

theorem isLink_eq_false_iff :
    tree.isLink location = false ↔ ∀ target, tree.item? location ≠ some (.link target) := by
  unfold isLink
  rcases tree.item? location with _ | _ | _ | _ | _ <;> simp

instance (tree : FileTree) (location : Location) : Decidable (tree.NoLinkTo location) :=
  decidable_of_iff (∀ above ∈ location.inits, tree.isLink above = false) <| by
    simp only [List.mem_inits, isLink_eq_false_iff, NoLinkTo]

theorem NoLinkTo.of_above {above : Location} (h : tree.NoLinkTo location)
    (hpre : above <+: location) : tree.NoLinkTo above := by
  intro higher hhigher
  exact h higher (hhigher.trans hpre)

/-- Names that lead through directories are followed one by one. -/
theorem walkWith_append_of_directory (hdots : ∀ name ∈ names, name ≠ "." ∧ name ≠ "..")
    (hfits : ∀ name ∈ names, name.utf8ByteSize ≤ Path.maxNameBytes)
    (hdirectory : tree.item? (here ++ names) = some .directory) (rest : List String) :
    walkWith jump tree lastLink here (names ++ rest) =
      walkWith jump tree lastLink (here ++ names) rest := by
  induction names generalizing here with
  | nil => simp
  | cons name names ih =>
    have hstep : here ++ name :: names = (here ++ [name]) ++ names := by simp
    have hname : tree.item? (here ++ [name]) = some .directory := by
      rw [hstep] at hdirectory
      cases names with
      | nil => simpa using hdirectory
      | cons second others =>
        exact item?_above (second :: others) (by rw [hdirectory]; simp) (by simp)
    obtain ⟨hdot, hdotdot⟩ := hdots name List.mem_cons_self
    have hshort := hfits name List.mem_cons_self
    rw [List.cons_append, walkWith, if_neg hdot, if_neg hdotdot,
      if_neg (Nat.not_lt.mpr hshort), hname]
    simp only
    rw [ih (fun n hn => hdots n (List.mem_cons_of_mem _ hn))
      (fun n hn => hfits n (List.mem_cons_of_mem _ hn)) (hstep ▸ hdirectory), hstep]

/-- Names that lead on through a tree without links lead through directories. -/
theorem walkWith_append_eq_ok (hrest : rest ≠ [])
    (hdots : ∀ name ∈ names, name ≠ "." ∧ name ≠ "..")
    (hhere : tree.item? here = some .directory) (hlink : tree.NoLinkTo (here ++ names))
    (h : walkWith jump tree lastLink here (names ++ rest) = .ok place) :
    (∀ name ∈ names, name.utf8ByteSize ≤ Path.maxNameBytes) ∧
      tree.item? (here ++ names) = some .directory := by
  induction names generalizing here with
  | nil => simpa using hhere
  | cons name names ih =>
    have hstep : here ++ name :: names = (here ++ [name]) ++ names := by simp
    obtain ⟨hdot, hdotdot⟩ := hdots name List.mem_cons_self
    have hmore : (names ++ rest).isEmpty = false := by simp [hrest]
    rw [List.cons_append, walkWith, if_neg hdot, if_neg hdotdot] at h
    split at h
    case isTrue hlong => simp at h
    case isFalse hshort =>
      have hnolink := hlink (here ++ [name]) (by rw [hstep]; exact List.prefix_append _ _)
      split at h
      next hnone => simp [hmore] at h
      next hname =>
        obtain ⟨hfits, hdirectory⟩ := ih (fun n hn => hdots n (List.mem_cons_of_mem _ hn))
          hname (hstep ▸ hlink) h
        refine ⟨?_, hstep ▸ hdirectory⟩
        intro n hn
        rcases List.mem_cons.mp hn with rfl | hn
        · exact Nat.not_lt.mp hshort
        · exact hfits n hn
      next content hfile => simp [hmore] at h
      next content hspecial => simp [hmore] at h
      next target htarget => exact absurd htarget (hnolink target)

theorem walkWith_singleton (hdots : name ≠ "." ∧ name ≠ "..")
    (hlink : ∀ target, tree.item? (here ++ [name]) ≠ some (.link target)) :
    walkWith jump tree lastLink here [name] =
      if Path.maxNameBytes < name.utf8ByteSize then .error .nameTooLong
      else match tree.item? (here ++ [name]) with
        | none => .ok (.vacant here name)
        | some _ => .ok (.found (here ++ [name])) := by
  rw [walkWith, if_neg hdots.1, if_neg hdots.2]
  split
  · rfl
  · split
    next hnone => simp [hnone]
    next hdirectory => simp [hdirectory, walkWith]
    next content hfile => simp [hfile]
    next content hspecial => simp [hspecial]
    next target htarget => exact absurd htarget (hlink target)

/-- The way to the directory of a plain path. -/
theorem walk_folder (hplain : path.IsPlain)
    (hfits : ∀ name ∈ path.folder, name.utf8ByteSize ≤ Path.maxNameBytes)
    (hdirectory : tree.item? path.folder = some .directory) (rest : List String) :
    walkWith jump tree lastLink [] (path.folder ++ rest) =
      walkWith jump tree lastLink path.folder rest :=
  walkWith_append_of_directory
    (fun name hname => hplain.1 name (List.dropLast_subset _ hname)) hfits hdirectory rest

theorem walk_folder_eq_ok (hrest : rest ≠ []) (hplain : path.IsPlain)
    (hlink : tree.NoLinkTo path.folder)
    (h : walkWith jump tree lastLink [] (path.folder ++ rest) = .ok place) :
    (∀ name ∈ path.folder, name.utf8ByteSize ≤ Path.maxNameBytes) ∧
      tree.item? path.folder = some .directory ∧
      walkWith jump tree lastLink path.folder rest = .ok place := by
  obtain ⟨hfits, hdirectory⟩ := walkWith_append_eq_ok hrest
    (fun name hname => hplain.1 name (List.dropLast_subset _ hname)) (item?_nil tree) hlink h
  exact ⟨hfits, hdirectory, walk_folder hplain hfits hdirectory rest ▸ h⟩

theorem resolveParent_of_directory (hplain : path.IsPlain) (hfits : path.Fits)
    (hdirectory : tree.item? path.folder = some .directory) :
    tree.resolveParent path = .ok (path.folder, .name path.lastName false) := by
  have hnames := Path.names_eq_folder_concat (Path.Fits.names_ne_nil hplain hfits)
  have hreverse : path.names.reverse = path.lastName :: path.folder.reverse := by simp [hnames]
  have hlast : path.lastName ∈ path.names := by simp [hnames]
  have hfolder : ∀ name ∈ path.folder, name.utf8ByteSize ≤ Path.maxNameBytes :=
    fun name hname => hfits.2 name (List.dropLast_subset _ hname)
  have hwalk : walk tree .follow maxLinks [] (path.folder ++ ["."]) =
      .ok (.found path.folder) := by
    rw [maxLinks, walk, walk_folder hplain hfolder hdirectory]
    simp [walkWith]
  obtain ⟨hdot, hdotdot⟩ := hplain.1 _ hlast
  simp only [resolveParent, hfits.1, hreverse, List.reverse_reverse, hwalk, hdot, hdotdot,
    or_self, ↓reduceIte, if_neg (Nat.not_lt.mpr (hfits.2 _ hlast)), hplain.2]

theorem resolveParent_eq_ok {last : LastName} (hplain : path.IsPlain)
    (hlink : tree.NoLinkTo path.folder) (h : tree.resolveParent path = .ok (folder, last)) :
    (path.names = [] ∧ last = .none) ∨
    (path.Fits ∧ tree.item? path.folder = some .directory ∧
      folder = path.folder ∧ last = .name path.lastName false) := by
  simp only [resolveParent] at h
  split at h
  case h_1 => simp at h
  case h_2 husable =>
    split at h
    case h_1 hreverse =>
      simp only [Except.ok.injEq, Prod.mk.injEq] at h
      exact .inl ⟨by simpa using hreverse, h.2.symm⟩
    case h_2 name before hreverse =>
      have hne : path.names ≠ [] := by
        rintro hempty
        simp [hempty] at hreverse
      have hnames := Path.names_eq_folder_concat hne
      rw [hnames, List.reverse_concat, List.cons.injEq] at hreverse
      obtain ⟨rfl, rfl⟩ := hreverse
      rw [List.reverse_reverse, maxLinks, walk] at h
      split at h
      case h_1 => simp at h
      case h_2 => simp at h
      case h_3 parent hwalk =>
        obtain ⟨hfits, hdirectory, hwalk⟩ :=
          walk_folder_eq_ok (by simp) hplain hlink hwalk
        have hparent : path.folder = parent := by simpa [walkWith] using hwalk
        split at h
        case isTrue hdots =>
          have hlast := hplain.1 path.lastName (by simp [hnames])
          simp [hlast.1, hlast.2] at hdots
        case isFalse hdots =>
          split at h
          case isTrue => simp at h
          case isFalse hshort =>
            simp only [Except.ok.injEq, Prod.mk.injEq, hplain.2] at h
            refine .inr ⟨⟨husable, ?_⟩, hdirectory, by rw [← h.1, hparent], h.2.symm⟩
            intro name hname
            rw [hnames, List.mem_append, List.mem_singleton] at hname
            rcases hname with hname | rfl
            · exact hfits name hname
            · exact Nat.not_lt.mp hshort

/-- Where a plain path leads once its directory is there. -/
def placeOf (tree : FileTree) (path : Path) : Place :=
  if (tree.item? path.location).isSome then .found path.location
  else .vacant path.folder path.lastName

/-- What a plain path has to do with a tree in which it leads to a place. -/
structure LeadsTo (tree : FileTree) (path : Path) (place : Place) : Prop where
  fits : path.Fits
  directory : tree.item? path.folder = some .directory
  place_eq : place = tree.placeOf path

theorem walkWith_lastName (hdots : path.lastName ≠ "." ∧ path.lastName ≠ "..")
    (hshort : path.lastName.utf8ByteSize ≤ Path.maxNameBytes)
    (hlink : ∀ target, tree.item? path.location ≠ some (.link target)) :
    walkWith jump tree lastLink path.folder [path.lastName] = .ok (tree.placeOf path) := by
  rw [walkWith_singleton hdots hlink, if_neg (Nat.not_lt.mpr hshort), placeOf]
  change (match tree.item? path.location with | none => _ | some _ => _) = _
  cases tree.item? path.location <;> rfl

theorem walk_names_of_directory (hplain : path.IsPlain) (hfits : path.Fits)
    (hlink : ∀ target, tree.item? path.location ≠ some (.link target))
    (hdirectory : tree.item? path.folder = some .directory) :
    walkWith jump tree lastLink [] path.names = .ok (tree.placeOf path) := by
  have hnames := Path.names_eq_folder_concat (Path.Fits.names_ne_nil hplain hfits)
  have hlast : path.lastName ∈ path.names := by simp [hnames]
  rw [hnames, walk_folder hplain
    (fun name hname => hfits.2 name (List.dropLast_subset _ hname)) hdirectory]
  exact walkWith_lastName (hplain.1 _ hlast) (hfits.2 _ hlast) hlink

theorem walk_names_eq_ok (hplain : path.IsPlain) (husable : path.unusable? = none)
    (hlink : tree.NoLinkTo path.location)
    (h : walkWith jump tree lastLink [] path.names = .ok place) : tree.LeadsTo path place := by
  have hne : path.names ≠ [] := fun hempty =>
    (Path.unusable?_eq_none_iff.mp husable).2.1 (Path.text_eq_empty hplain hempty)
  have hnames := Path.names_eq_folder_concat hne
  have hlast : path.lastName ∈ path.names := by simp [hnames]
  rw [hnames] at h
  obtain ⟨hfolder, hdirectory, hwalk⟩ := walk_folder_eq_ok (by simp) hplain
    (hlink.of_above path.folder_prefix_location) h
  have hshort : path.lastName.utf8ByteSize ≤ Path.maxNameBytes := by
    rw [walkWith_singleton (hplain.1 _ hlast) (hlink _ List.prefix_rfl)] at hwalk
    split at hwalk
    case isTrue => simp at hwalk
    case isFalse hshort => exact Nat.not_lt.mp hshort
  refine ⟨⟨husable, ?_⟩, hdirectory, ?_⟩
  · intro name hname
    rw [hnames, List.mem_append, List.mem_singleton] at hname
    rcases hname with hname | rfl
    · exact hfolder name hname
    · exact hshort
  · rw [walkWith_lastName (hplain.1 _ hlast) hshort (hlink _ List.prefix_rfl)] at hwalk
    simpa using hwalk.symm

theorem resolve_of_directory (hplain : path.IsPlain) (hfits : path.Fits)
    (hlink : ∀ target, tree.item? path.location ≠ some (.link target))
    (hdirectory : tree.item? path.folder = some .directory) (followLast : Bool) :
    tree.resolve followLast path = .ok (tree.placeOf path) := by
  simp only [resolve, hfits.1, Path.lookupNames, hplain.2, Bool.false_eq_true, ↓reduceIte,
    maxLinks, walk]
  exact walk_names_of_directory hplain hfits hlink hdirectory

theorem resolve_eq_ok {followLast : Bool} (hplain : path.IsPlain)
    (hlink : tree.NoLinkTo path.location) (h : tree.resolve followLast path = .ok place) :
    tree.LeadsTo path place := by
  simp only [resolve, Path.lookupNames, hplain.2, Bool.false_eq_true, ↓reduceIte, maxLinks,
    walk] at h
  split at h
  case h_1 => simp at h
  case h_2 husable => exact walk_names_eq_ok hplain husable hlink h

theorem resolveToWrite_eq_ok (hplain : path.IsPlain) (hlink : tree.NoLinkTo path.location)
    (h : tree.resolveToWrite path = .ok place) : tree.LeadsTo path place := by
  simp only [resolveToWrite, hplain.2, Bool.false_eq_true, ↓reduceIte, maxLinks, walk] at h
  split at h
  case h_1 => simp at h
  case h_2 husable => exact walk_names_eq_ok hplain husable hlink h

end TreeTypes.FileTree
