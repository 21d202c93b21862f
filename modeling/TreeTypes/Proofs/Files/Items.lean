import TreeTypes.Files.Tree

/-!
# Items of a changed tree

Proofs look at a tree through `item?` alone. What stands below a location depends only on the node
there, so a change of one location shows at that location and below it. The operations put and
remove nodes that have nothing below them, and for these `item?_put` says that a single item
changes.
-/

namespace TreeTypes

theorem nodeBelow_cons_of_directory {entries inner : List (String × Node)} {name : String}
    (h : entries.lookup name = some (.directory inner)) (rest : Location) :
    nodeBelow entries (name :: rest) = nodeBelow inner rest := by
  simp [nodeBelow, h]

theorem nodeBelow_append (entries : List (String × Node)) (above below : Location) :
    nodeBelow entries (above ++ below) = match nodeBelow entries above with
      | some (.directory inner) => nodeBelow inner below
      | some node => if below = [] then some node else none
      | none => none := by
  induction above generalizing entries with
  | nil => simp [nodeBelow]
  | cons name rest ih =>
    simp only [List.cons_append, nodeBelow]
    cases entries.lookup name with
    | none => rfl
    | some node =>
      cases node with
      | directory inner => exact ih inner
      | file content => by_cases h : rest = [] <;> simp [h]
      | link target => by_cases h : rest = [] <;> simp [h]
      | special content => by_cases h : rest = [] <;> simp [h]

/-- A node that is put into a directory stands where it was put. -/
theorem nodeBelow_putBelow_self {entries inner : List (String × Node)} {folder : Location}
    (h : nodeBelow entries folder = some (.directory inner)) (name : String)
    (node : Option Node) :
    nodeBelow (putBelow node entries (folder ++ [name])) (folder ++ [name]) = node := by
  induction folder generalizing entries with
  | nil =>
    simp only [List.nil_append, putBelow, nodeBelow, lookup_setEntry_self]
    rcases node with _ | _ | _ | _ | _ <;> rfl
  | cons first rest ih =>
    obtain ⟨second, others, hrest⟩ : ∃ second others, rest ++ [name] = second :: others :=
      List.exists_cons_of_ne_nil (by simp)
    simp only [nodeBelow] at h
    cases hl : entries.lookup first with
    | none => simp [hl] at h
    | some found =>
      cases found with
      | directory below =>
        simp only [hl] at h
        have hbelow := ih h
        rw [hrest] at hbelow
        simp only [List.cons_append, hrest, putBelow, hl]
        rw [nodeBelow_cons_of_directory (lookup_setEntry_self _ _ _), hbelow]
      | file content => by_cases hr : rest = [] <;> simp [hl, hr] at h
      | link target => by_cases hr : rest = [] <;> simp [hl, hr] at h
      | special content => by_cases hr : rest = [] <;> simp [hl, hr] at h

/-- Putting a node changes no item but those at its location and below it. -/
theorem item_putBelow_elsewhere (node : Option Node) (entries : List (String × Node))
    {location other : Location} (h : ¬ location <+: other) :
    (nodeBelow (putBelow node entries location) other).map Node.item =
      (nodeBelow entries other).map Node.item := by
  induction location generalizing entries other with
  | nil => exact absurd List.nil_prefix h
  | cons name rest ih =>
    cases other with
    | nil => simp [nodeBelow, Node.item]
    | cons first others =>
      by_cases hname : first = name
      · subst hname
        have hrest : ¬ rest <+: others := fun hp => h (by simpa using hp)
        cases rest with
        | nil => exact absurd List.nil_prefix hrest
        | cons second deeper =>
          simp only [putBelow]
          cases hl : entries.lookup first with
          | none => rfl
          | some found =>
            cases found with
            | directory inner => simpa [nodeBelow, hl] using ih inner hrest
            | file content => rfl
            | link target => rfl
            | special content => rfl
      · cases rest with
        | nil => simp [putBelow, nodeBelow, lookup_setEntry_of_ne _ hname]
        | cons second deeper =>
          simp only [putBelow]
          cases entries.lookup name with
          | none => rfl
          | some found => cases found <;> simp [nodeBelow, lookup_setEntry_of_ne _ hname]

namespace FileTree

variable {tree : FileTree} {location folder above below : Location}

@[simp] theorem item?_nil (tree : FileTree) : tree.item? [] = some .directory := rfl

theorem item?_empty (hne : location ≠ []) : empty.item? location = none := by
  obtain ⟨name, rest, rfl⟩ := List.exists_cons_of_ne_nil hne
  rfl

theorem item?_single {name : String} (content : ByteArray) (hnil : location ≠ [])
    (hne : location ≠ [name]) : item? ⟨[(name, .file content)]⟩ location = none := by
  obtain ⟨first, rest, rfl⟩ := List.exists_cons_of_ne_nil hnil
  by_cases hname : first = name
  · have hrest : rest ≠ [] := fun hrest => hne (by rw [hname, hrest])
    simp [item?, node?, nodeBelow, hname, hrest]
  · have hother : (first == name) = false := by simpa using hname
    simp [item?, node?, nodeBelow, List.lookup_cons, hother]

theorem item?_eq_directory_iff :
    tree.item? location = some .directory ↔
      ∃ inner, tree.node? location = some (.directory inner) := by
  unfold item?
  rcases tree.node? location with _ | _ | _ | _ | _ <;> simp [Node.item]

/-- What is no directory stands at its location as a whole. -/
theorem exists_node_of_item {item : Item} (h : tree.item? location = some item)
    (hleaf : item ≠ .directory) :
    ∃ node, tree.node? location = some node ∧ node.item = item ∧ node.isDirectory = false := by
  obtain ⟨node, hnode, rfl⟩ := Option.map_eq_some_iff.mp h
  refine ⟨node, hnode, rfl, ?_⟩
  cases node with
  | directory inner => exact absurd rfl hleaf
  | file content => rfl
  | link target => rfl
  | special content => rfl

/-- Nothing lies below what is no directory. -/
theorem item?_append_of_ne_directory (h : tree.item? above ≠ some .directory)
    (hbelow : below ≠ []) : tree.item? (above ++ below) = none := by
  simp only [node?, item?, nodeBelow_append] at h ⊢
  cases hn : nodeBelow tree.entries above with
  | none => rfl
  | some node =>
    cases node with
    | directory inner => simp [hn, Node.item] at h
    | file content => simp [hbelow]
    | link target => simp [hbelow]
    | special content => simp [hbelow]

/-- What holds something below it is a directory. -/
theorem item?_above (below : Location) (h : tree.item? (above ++ below) ≠ none)
    (hbelow : below ≠ []) :
    tree.item? above = some .directory :=
  Classical.byContradiction fun hne => h (item?_append_of_ne_directory hne hbelow)

theorem directory_of_above (h : tree.item? location ≠ none) (hpre : above <+: location)
    (hne : above ≠ location) : tree.item? above = some .directory := by
  obtain ⟨below, rfl⟩ := hpre
  exact item?_above below h (fun hb => hne (by simp [hb]))

/-- A change of what has nothing below it, to something that has nothing below it, shows at its own
location alone. -/
theorem item?_put {name : String} {node : Option Node}
    (hfolder : tree.item? folder = some .directory)
    (hold : tree.item? (folder ++ [name]) ≠ some .directory)
    (hnode : ∀ inner, node = some (.directory inner) → inner = []) (other : Location) :
    item? (tree.put (folder ++ [name]) node) other =
      if other = folder ++ [name] then node.map Node.item else tree.item? other := by
  obtain ⟨inner, hinner⟩ := item?_eq_directory_iff.mp hfolder
  have hself : nodeBelow (tree.put (folder ++ [name]) node).entries (folder ++ [name]) = node :=
    nodeBelow_putBelow_self hinner name node
  split
  case isTrue h =>
    subst h
    simp [node?, item?, hself]
  case isFalse h =>
    by_cases hpre : folder ++ [name] <+: other
    · obtain ⟨below, rfl⟩ := hpre
      have hbelow : below ≠ [] := fun hb => h (by simp [hb])
      rw [item?_append_of_ne_directory hold hbelow]
      simp only [node?, item?, nodeBelow_append _ (folder ++ [name]), hself]
      rcases node with _ | _ | _ | _ | entries
      · rfl
      · simp [hbelow]
      · simp [hbelow]
      · simp [hbelow]
      · obtain ⟨next, rest, rfl⟩ := List.exists_cons_of_ne_nil hbelow
        simp [hnode entries rfl, nodeBelow]
    · exact item_putBelow_elsewhere node tree.entries hpre

end FileTree

end TreeTypes
