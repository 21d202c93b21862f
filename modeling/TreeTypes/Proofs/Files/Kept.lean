import TreeTypes.Proofs.Files.Effects

/-!
# What leads to a file

Following a path passes directories and links and ends at one more item. A tree that keeps all
directories and links of another, and the file at which a path ends, is therefore read through that
path as the other is, however the path is spelled.
-/

namespace TreeTypes.FileTree

variable {before after : FileTree} {path : Path} {here location : Location} {names : List String}
variable {jump jump' : Location → List String → Except FileError Place} {lastLink : LastLink}
variable {followLast : Bool} {text : String} {item : Item}

/-- The directories and links of a tree stand in another one as well. -/
structure Keeps (before after : FileTree) : Prop where
  directory : ∀ location, before.item? location = some .directory →
    after.item? location = some .directory
  link : ∀ location target, before.item? location = some (.link target) →
    after.item? location = some (.link target)

theorem refuseDirectory_ne_ok {result : Except FileError Place} {place : Place} :
    refuseDirectory result ≠ .ok place := by
  cases result <;> simp [refuseDirectory]

theorem walkWith_found (hkeeps : before.Keeps after)
    (hsame : after.item? location = before.item? location)
    (hjump : ∀ start names, jump start names = .ok (.found location) →
      jump' start names = .ok (.found location))
    (h : walkWith jump before lastLink here names = .ok (.found location)) :
    walkWith jump' after lastLink here names = .ok (.found location) := by
  induction names generalizing here with
  | nil => exact h
  | cons name rest ih =>
    simp only [walkWith] at h ⊢
    split at h
    case isTrue hdot =>
      rw [if_pos hdot]
      exact ih h
    case isFalse hdot =>
      rw [if_neg hdot]
      split at h
      case isTrue hdotdot =>
        rw [if_pos hdotdot]
        exact ih h
      case isFalse hdotdot =>
        rw [if_neg hdotdot]
        split at h
        case isTrue => simp at h
        case isFalse hshort =>
          rw [if_neg hshort]
          split at h
          case h_1 hnone => split at h <;> simp at h
          case h_2 hdirectory =>
            rw [hkeeps.directory _ hdirectory]
            exact ih h
          case h_3 content hfile =>
            split at h
            case isFalse => simp at h
            case isTrue hlast =>
              obtain rfl : here ++ [name] = location := by simpa using h
              rw [hsame, hfile]
              simp [hlast]
          case h_4 content hspecial =>
            split at h
            case isFalse => simp at h
            case isTrue hlast =>
              obtain rfl : here ++ [name] = location := by simpa using h
              rw [hsame, hspecial]
              simp [hlast]
          case h_5 target hlink =>
            rw [hkeeps.link _ _ hlink]
            simp only
            split at h
            case isTrue hkeep =>
              rw [if_pos hkeep]
              exact h
            case isFalse hkeep =>
              rw [if_neg hkeep]
              split at h
              case isTrue => exact absurd h refuseDirectory_ne_ok
              case isFalse hwrite =>
                rw [if_neg hwrite]
                exact hjump _ _ h

theorem walk_found (hkeeps : before.Keeps after)
    (hsame : after.item? location = before.item? location) (links : Nat)
    (h : walk before lastLink links here names = .ok (.found location)) :
    walk after lastLink links here names = .ok (.found location) := by
  induction links generalizing here names with
  | zero => exact walkWith_found hkeeps hsame (by simp) h
  | succ links ih => exact walkWith_found hkeeps hsame (fun _ _ => ih) h

theorem resolve_found (hkeeps : before.Keeps after)
    (hsame : after.item? location = before.item? location)
    (h : before.resolve followLast path = .ok (.found location)) :
    after.resolve followLast path = .ok (.found location) := by
  unfold resolve at h ⊢
  split at h
  case h_1 => simp at h
  case h_2 => exact walk_found hkeeps hsame _ h

theorem itemAt_eq_ok_iff_found : before.itemAt followLast path = .ok item ↔
    ∃ location, before.resolve followLast path = .ok (.found location) ∧
      before.item? location = some item := by
  unfold itemAt
  rcases before.resolve followLast path with failure | ⟨location⟩ | ⟨parent, name⟩
  · simp
  · simp only [Except.ok.injEq, Place.found.injEq, exists_eq_left']
    cases before.item? location <;> simp
  · simp

theorem readText_eq_ok_iff_found : before.readText path = .ok text ↔
    ∃ location, before.resolve true path = .ok (.found location) ∧
      before.contentAt? location = some text.toUTF8 := by
  simp only [readText_eq_ok_iff_readFile, readFile_eq_ok_iff_itemAt, itemAt_eq_ok_iff_found,
    contentAt?, Option.bind_eq_some_iff]
  constructor
  · rintro ⟨item, ⟨location, hresolve, hitem⟩, hcontent⟩
    exact ⟨location, hresolve, item, hitem, hcontent⟩
  · rintro ⟨location, hresolve, item, hitem, hcontent⟩
    exact ⟨item, ⟨location, hresolve, hitem⟩, hcontent⟩

theorem readText_of_found (location : Location)
    (hresolve : before.resolve true path = .ok (.found location))
    (hcontent : before.contentAt? location = some text.toUTF8) : before.readText path = .ok text :=
  readText_eq_ok_iff_found.mpr ⟨location, hresolve, hcontent⟩

/-- A text that can be read is read again. -/
theorem readText_of_keeps (hkeeps : before.Keeps after)
    (hsame : ∀ location, before.resolve true path = .ok (.found location) →
      before.item? location ≠ none → after.item? location = before.item? location)
    (h : before.readText path = .ok text) : after.readText path = .ok text := by
  obtain ⟨location, hresolve, hcontent⟩ := readText_eq_ok_iff_found.mp h
  have hne : before.item? location ≠ none := by
    rintro hnone
    simp [contentAt?, hnone] at hcontent
  have hsame := hsame location hresolve hne
  refine readText_of_found location (resolve_found hkeeps hsame hresolve) ?_
  rw [contentAt?, hsame]
  exact hcontent

end TreeTypes.FileTree
