import TreeTypes.Files.Access
import TreeTypes.Proofs.Files.Resolution

/-!
# What operations on plain paths do

Reading a plain path gives what stands at its location. An operation that succeeds changes the
entries at the locations that its paths spell and no others; the operations that put files into
place, move them aside and remove them are shown to succeed where nothing stands in their way.
-/

namespace TreeTypes

namespace Item

/-- The bytes that are read from an item. -/
def content? : Item → Option ByteArray
  | .file content | .special content => some content
  | .link _ | .directory => none

/-- What stands at a location after bytes have been written to what stood there. -/
def written (old : Option Item) (content : ByteArray) : Item :=
  match old with
  | some (.special kept) => .special kept
  | _ => .file content

theorem written_ne_directory (old : Option Item) (content : ByteArray) :
    written old content ≠ .directory := by
  rcases old with _ | _ | _ | _ | _ <;> simp [written]

theorem written_ne_link (old : Option Item) (content : ByteArray) (target : String) :
    written old content ≠ .link target := by
  rcases old with _ | _ | _ | _ | _ <;> simp [written]

theorem written_of_not_special {old : Option Item} (h : ∀ kept, old ≠ some (.special kept))
    (content : ByteArray) : written old content = .file content := by
  rcases old with _ | _ | _ | _ | _ <;> simp_all [written]

end Item

namespace FileTree

variable {tree after : FileTree} {path old new : Path} {location : Location}
variable {content : ByteArray} {item : Item} {text : String}

/-- A tree differs from another in nothing but the item at one location. -/
def ChangedTo (before after : FileTree) (location : Location) (item : Option Item) : Prop :=
  ∀ other, after.item? other = if other = location then item else before.item? other

theorem ChangedTo.self {before : FileTree} {item : Option Item}
    (h : before.ChangedTo after location item) : after.item? location = item := by
  simp [h location]

theorem ChangedTo.other {before : FileTree} {item : Option Item} {other : Location}
    (h : before.ChangedTo after location item) (hne : other ≠ location) :
    after.item? other = before.item? other := by
  simp [h other, hne]

/-- A tree differs from another in nothing but an item that has moved between two locations. -/
def Moved (before after : FileTree) (source target : Location) (item : Item) : Prop :=
  ∀ other, after.item? other =
    if other = target then some item
    else if other = source then none else before.item? other

/-- Nothing stands at a location that bytes cannot be written to. -/
def Writable (tree : FileTree) (location : Location) : Prop :=
  tree.item? location ≠ some .directory ∧ ∀ target, tree.item? location ≠ some (.link target)

theorem Writable.congr (h : tree.Writable location)
    (heq : after.item? location = tree.item? location) : after.Writable location := by
  rwa [Writable, heq]

theorem Writable.of_none (h : tree.item? location = none) : tree.Writable location := by
  simp [Writable, h]

theorem Writable.of_written {held : Option Item}
    (h : tree.item? location = some (.written held content)) : tree.Writable location := by
  simp [Writable, h, Item.written_ne_directory, Item.written_ne_link]

/-- Whether a special file stands at a location. -/
def isSpecial (tree : FileTree) (location : Location) : Bool :=
  match tree.item? location with
  | some (.special _) => true
  | _ => false

theorem isSpecial_eq_false_iff : tree.isSpecial location = false ↔
    ∀ kept, tree.item? location ≠ some (.special kept) := by
  unfold isSpecial
  rcases tree.item? location with _ | _ | _ | _ | _ <;> simp

/-- The bytes that are read at a location. -/
def contentAt? (tree : FileTree) (location : Location) : Option ByteArray :=
  (tree.item? location).bind Item.content?

theorem item?_eq_file_of_contentAt? (hspecial : tree.isSpecial location = false)
    (h : tree.contentAt? location = some content) : tree.item? location = some (.file content) := by
  rw [isSpecial_eq_false_iff] at hspecial
  obtain ⟨item, hitem, hcontent⟩ := Option.bind_eq_some_iff.mp h
  cases item with
  | file held => rw [hitem, Option.some.inj hcontent]
  | special kept => exact absurd hitem (hspecial kept)
  | link target => simp [Item.content?] at hcontent
  | directory => simp [Item.content?] at hcontent

theorem changedTo_put (node : Option Node) (hdirectory : tree.item? path.folder = some .directory)
    (hold : tree.item? path.location ≠ some .directory)
    (hnode : ∀ inner, node = some (.directory inner) → inner = []) :
    tree.ChangedTo (tree.put path.location node) path.location (node.map Node.item) :=
  item?_put hdirectory hold hnode

theorem directory_of_found (h : tree.item? path.location = some item) :
    tree.item? path.folder = some .directory :=
  item?_above [path.lastName] (by rw [← Path.location, h]; simp) (by simp)

theorem itemAt_eq_ok {followLast : Bool} (hplain : path.IsPlain)
    (hlink : tree.NoLinkTo path.location) (h : tree.itemAt followLast path = .ok item) :
    path.Fits ∧ tree.item? path.location = some item := by
  simp only [itemAt] at h
  split at h
  case h_1 => simp at h
  case h_2 => simp at h
  case h_3 location hresolve =>
    obtain ⟨hfits, -, hplace⟩ := resolve_eq_ok hplain hlink hresolve
    simp only [placeOf] at hplace
    split at hplace
    case isTrue =>
      obtain rfl : location = path.location := by simpa using hplace
      split at h <;> simp_all
    case isFalse => simp at hplace

theorem itemAt_of_found (hplain : path.IsPlain) (hfits : path.Fits)
    (hitem : tree.item? path.location = some item) (hlink : ∀ target, item ≠ .link target)
    (followLast : Bool) : tree.itemAt followLast path = .ok item := by
  have hnolink : ∀ target, tree.item? path.location ≠ some (.link target) := by
    simpa [hitem] using hlink
  simp [itemAt, resolve_of_directory hplain hfits hnolink (directory_of_found hitem), placeOf,
    hitem]

theorem itemAt_of_none (hplain : path.IsPlain) (hfits : path.Fits)
    (hitem : tree.item? path.location = none)
    (hdirectory : tree.item? path.folder = some .directory) (followLast : Bool) :
    tree.itemAt followLast path = .error .notFound := by
  simp [itemAt, resolve_of_directory hplain hfits (by simp [hitem]) hdirectory, placeOf, hitem]

theorem itemAt_eq_ok_iff {followLast : Bool} (hplain : path.IsPlain)
    (hlink : tree.NoLinkTo path.location) :
    tree.itemAt followLast path = .ok item ↔
      path.Fits ∧ tree.item? path.location = some item := by
  refine ⟨itemAt_eq_ok hplain hlink, ?_⟩
  rintro ⟨hfits, hitem⟩
  exact itemAt_of_found hplain hfits hitem
    (fun target htarget => hlink _ List.prefix_rfl target (htarget ▸ hitem)) followLast

/-- A plain path leads to the same in two trees that have the same item at its location. -/
theorem toOption_itemAt_congr {before : FileTree} {followLast : Bool} (hplain : path.IsPlain)
    (hbefore : before.NoLinkTo path.location) (hafter : after.NoLinkTo path.location)
    (heq : after.item? path.location = before.item? path.location) :
    (after.itemAt followLast path).toOption = (before.itemAt followLast path).toOption := by
  have hiff : ∀ item, after.itemAt followLast path = .ok item ↔
      before.itemAt followLast path = .ok item := by
    intro item
    rw [itemAt_eq_ok_iff hplain hafter, itemAt_eq_ok_iff hplain hbefore, heq]
  cases hfound : before.itemAt followLast path with
  | ok item => rw [(hiff item).mpr hfound]
  | error failure =>
    cases hfound' : after.itemAt followLast path with
    | ok item => simp [(hiff item).mp hfound'] at hfound
    | error failure' => rfl

theorem readFile_eq_ok_iff_itemAt : tree.readFile path = .ok content ↔
    ∃ item, tree.itemAt true path = .ok item ∧ item.content? = some content := by
  unfold readFile
  rcases tree.itemAt true path with _ | _ | _ | _ | _ <;> simp [Item.content?]

/-- The content of a file as text. -/
def readText (tree : FileTree) (path : Path) : Except FileError String :=
  match tree.readFile path with
  | .error failure => .error failure
  | .ok content =>
    match String.fromUTF8? content with
    | some text => .ok text
    | none => .error .notUtf8

theorem fromUTF8?_eq_some_iff : String.fromUTF8? content = some text ↔ content = text.toUTF8 := by
  rw [String.fromUTF8?]
  split
  case isTrue hvalid =>
    rw [Option.some.injEq, ← String.toByteArray_inj]
    rfl
  case isFalse hvalid =>
    refine iff_of_false (by simp) ?_
    rintro rfl
    exact hvalid text.isValidUTF8

theorem readText_eq_ok_iff_readFile :
    tree.readText path = .ok text ↔ tree.readFile path = .ok text.toUTF8 := by
  simp only [readText]
  split
  case h_1 failure h => simp [h]
  case h_2 content h =>
    rw [h, Except.ok.injEq, ← fromUTF8?_eq_some_iff]
    split <;> simp_all

theorem readText_eq_ok_iff (hplain : path.IsPlain) (hlink : tree.NoLinkTo path.location) :
    tree.readText path = .ok text ↔
      path.Fits ∧ tree.contentAt? path.location = some text.toUTF8 := by
  simp only [readText_eq_ok_iff_readFile, readFile_eq_ok_iff_itemAt,
    itemAt_eq_ok_iff hplain hlink, contentAt?, Option.bind_eq_some_iff, and_assoc,
    exists_and_left]

theorem writeFile_eq_ok (hplain : path.IsPlain) (hlink : tree.NoLinkTo path.location)
    (h : tree.writeFile path content = .ok after) :
    path.Fits ∧ tree.item? path.folder = some .directory ∧ tree.Writable path.location ∧
      tree.ChangedTo after path.location
        (some (.written (tree.item? path.location) content)) := by
  simp only [writeFile] at h
  split at h
  case h_1 => simp at h
  case h_2 parent name hresolve =>
    obtain ⟨hfits, hdirectory, hplace⟩ := resolveToWrite_eq_ok hplain hlink hresolve
    simp only [placeOf] at hplace
    split at hplace
    case isTrue => simp at hplace
    case isFalse hnone =>
      obtain ⟨rfl, rfl⟩ : parent = path.folder ∧ name = path.lastName := by simpa using hplace
      have hnone : tree.item? path.location = none := by simpa using hnone
      obtain rfl : tree.put path.location (some (.file content)) = after := Except.ok.inj h
      refine ⟨hfits, hdirectory, by simp [Writable, hnone], ?_⟩
      rw [hnone]
      exact changedTo_put _ hdirectory (by simp [hnone]) (by simp)
  case h_3 location hresolve =>
    obtain ⟨hfits, hdirectory, hplace⟩ := resolveToWrite_eq_ok hplain hlink hresolve
    simp only [placeOf] at hplace
    split at hplace
    case isFalse => simp at hplace
    case isTrue hsome =>
      obtain rfl : location = path.location := by simpa using hplace
      split at h
      case h_1 old hfile =>
        obtain rfl : tree.put path.location (some (.file content)) = after := Except.ok.inj h
        refine ⟨hfits, hdirectory, by simp [Writable, hfile], ?_⟩
        rw [hfile]
        exact changedTo_put _ hdirectory (by simp [hfile]) (by simp)
      case h_2 kept hspecial =>
        obtain rfl : tree = after := Except.ok.inj h
        refine ⟨hfits, hdirectory, by simp [Writable, hspecial], fun other => ?_⟩
        split
        case isTrue hother => rw [hother, hspecial, Item.written]
        case isFalse => rfl
      case h_3 => simp at h

theorem createDirectory_eq_ok (hplain : path.IsPlain) (hlink : tree.NoLinkTo path.folder)
    (h : tree.createDirectory path = .ok after) :
    path.names ≠ [] ∧ tree.item? path.location = none ∧
      tree.ChangedTo after path.location (some .directory) := by
  simp only [createDirectory] at h
  split at h
  case h_1 => simp at h
  case h_2 => simp at h
  case h_3 parent name slash hresolve =>
    rcases resolveParent_eq_ok hplain hlink hresolve with
      ⟨-, hlast⟩ | ⟨hfits, hdirectory, rfl, hlast⟩
    · simp at hlast
    · obtain ⟨rfl, rfl⟩ : name = path.lastName ∧ slash = false := by simpa using hlast
      split at h
      case h_1 => simp at h
      case h_2 hnone =>
        obtain rfl : tree.put path.location (some (.directory [])) = after :=
          Except.ok.inj h
        exact ⟨Path.Fits.names_ne_nil hplain hfits, hnone,
          changedTo_put _ hdirectory (by rw [Path.location, hnone]; simp) (by simp)⟩

/-- What is no directory is removed if the system takes its path. -/
theorem removeFile_of_item (hplain : path.IsPlain) (hfits : path.Fits)
    (hitem : tree.item? path.location = some item) (hleaf : item ≠ .directory) :
    ∃ after, tree.removeFile path = .ok after ∧ tree.ChangedTo after path.location none := by
  have hdirectory := directory_of_found hitem
  refine ⟨tree.put path.location none, ?_,
    changedTo_put _ hdirectory (by simpa [hitem] using hleaf) (by simp)⟩
  have hitem' : tree.item? (path.folder ++ [path.lastName]) = some item := hitem
  cases item with
  | directory => exact absurd rfl hleaf
  | file _ | link _ | special _ =>
    simp [removeFile, resolveParent_of_directory hplain hfits hdirectory, hitem', Path.location]

/-- How what is no directory is moved once both paths have been followed. -/
theorem rename_eq {node : Node} (holdPlain : old.IsPlain) (hnewPlain : new.IsPlain)
    (holdFits : old.Fits) (hnewFits : new.Fits) (hne : new.location ≠ old.location)
    (hold : tree.node? old.location = some node) (hleaf : node.isDirectory = false)
    (hdirectory : tree.item? new.folder = some .directory) :
    tree.rename old new =
      if new.location.isPrefixOf old.folder then .error .directoryNotEmpty
      else match tree.replaceFailure? node new.location with
        | some failure => .error failure
        | none => .ok ((tree.put old.location none).put new.location (some node)) := by
  have hitem : tree.item? old.location = some node.item := by simp [item?, hold]
  have holdDirectory := directory_of_found hitem
  -- A directory on the way of the new path is not what is moved and does not lie below it.
  have hsource : old.location.isPrefixOf new.folder = false := by
    refine Bool.eq_false_iff.mpr fun hpre => ?_
    have hfound : tree.item? old.location = some .directory := by
      by_cases heq : old.location = new.folder
      · rw [heq, hdirectory]
      · exact directory_of_above (by simp [hdirectory]) (List.isPrefixOf_iff_prefix.mp hpre) heq
    cases node <;> simp_all [Node.item, Node.isDirectory]
  simp only [Path.location] at hold hsource hne
  simp only [rename, resolveParent_of_directory holdPlain holdFits holdDirectory,
    resolveParent_of_directory hnewPlain hnewFits hdirectory, hold, hsource, hne.symm, hleaf,
    Path.location, Bool.or_self, Bool.and_false, Bool.false_eq_true, ↓reduceIte]
  rfl

theorem replaceFailure?_of_leaf {node : Node} (hleaf : node.isDirectory = false)
    (hnew : tree.item? location ≠ some .directory) :
    tree.replaceFailure? node location = none := by
  have hnode : ∀ inner, tree.node? location ≠ some (.directory inner) :=
    fun inner hinner => hnew (item?_eq_directory_iff.mpr ⟨inner, hinner⟩)
  unfold replaceFailure?
  split <;> simp_all [Node.isDirectory]

/-- What is no directory is moved to a place where no directory stands. -/
theorem rename_of_item (holdPlain : old.IsPlain) (hnewPlain : new.IsPlain) (holdFits : old.Fits)
    (hnewFits : new.Fits) (hne : new.location ≠ old.location)
    (hold : tree.item? old.location = some item) (hleaf : item ≠ .directory)
    (hnew : tree.item? new.location ≠ some .directory)
    (hdirectory : tree.item? new.folder = some .directory) :
    ∃ after, tree.rename old new = .ok after ∧
      tree.Moved after old.location new.location item := by
  obtain ⟨node, hnode, rfl, hnodeLeaf⟩ := exists_node_of_item hold hleaf
  have holdDirectory := directory_of_found hold
  have hpre : new.location.isPrefixOf old.folder = false := by
    refine Bool.eq_false_iff.mpr fun hpre => hnew ?_
    by_cases heq : new.location = old.folder
    · rw [heq, holdDirectory]
    · exact directory_of_above (by simp [holdDirectory])
        (List.isPrefixOf_iff_prefix.mp hpre) heq
  refine ⟨(tree.put old.location none).put new.location (some node), ?_, fun other => ?_⟩
  · rw [rename_eq holdPlain hnewPlain holdFits hnewFits hne hnode hnodeLeaf hdirectory, hpre,
      replaceFailure?_of_leaf hnodeLeaf hnew]
    rfl
  · have hremoved := changedTo_put none holdDirectory (by simpa [hold] using hleaf) (by simp)
    have hfolder : new.folder ≠ old.location := by
      intro heq
      rw [heq, hold] at hdirectory
      exact hleaf (Option.some.inj hdirectory)
    have hput : FileTree.ChangedTo _ _ new.location _ := changedTo_put (some node)
      (by rw [hremoved.other hfolder, hdirectory]) (by rw [hremoved.other hne]; exact hnew)
      (fun inner hinner => by simp [Option.some.inj hinner, Node.isDirectory] at hnodeLeaf)
    rw [hput other, hremoved other]
    rfl

/-- Nothing is moved to a path that the system does not take. -/
theorem rename_to_unusable {failure : FileError} (h : new.unusable? = some failure) :
    ∃ failure, tree.rename old new = .error failure := by
  have hparent : tree.resolveParent new = .error failure := by simp [resolveParent, h]
  unfold rename
  cases tree.resolveParent old with
  | error failure => exact ⟨failure, rfl⟩
  | ok found => exact ⟨failure, by simp [hparent]⟩

/-- What is no directory is not moved to a place where a directory stands. -/
theorem rename_to_directory (holdPlain : old.IsPlain) (hnewPlain : new.IsPlain)
    (holdFits : old.Fits) (hnewFits : new.Fits)
    (hold : tree.item? old.location = some item) (hleaf : item ≠ .directory)
    (hnew : tree.item? new.location = some .directory) :
    ∃ failure, tree.rename old new = .error failure := by
  obtain ⟨node, hnode, rfl, hnodeLeaf⟩ := exists_node_of_item hold hleaf
  have hne : new.location ≠ old.location := by
    intro heq
    rw [heq, hold] at hnew
    exact hleaf (Option.some.inj hnew)
  obtain ⟨inner, hinner⟩ := item?_eq_directory_iff.mp hnew
  rw [rename_eq holdPlain hnewPlain holdFits hnewFits hne hnode hnodeLeaf
    (directory_of_found hnew)]
  split
  · exact ⟨_, rfl⟩
  · cases node <;> simp_all [replaceFailure?, Node.isDirectory]

end FileTree

end TreeTypes
