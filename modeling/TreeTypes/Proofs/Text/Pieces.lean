import TreeTypes.Text.Split

/-!
# Pieces of a text

The pieces between separators hold no separator, joining them and cutting again gives them back, and
a text that is put behind another goes to its last piece.
-/

namespace TreeTypes.Text

variable {separator : Char} {cs suffix : List Char}

theorem splitWhen_eq_splitOnP (p : Char → Bool) (cs : List Char) :
    splitWhen p cs = cs.splitOnP p := by
  induction cs with
  | nil => rfl
  | cons c cs ih =>
    simp only [splitWhen, List.splitOnP_cons_eq_if_modifyHead, ih]
    split
    · rfl
    · rcases hs : cs.splitOnP p with _ | ⟨piece, pieces⟩
      · exact absurd hs (List.splitOnP_ne_nil p cs)
      · rfl

theorem split_eq_splitOn (separator : Char) (cs : List Char) :
    split separator cs = cs.splitOn separator :=
  splitWhen_eq_splitOnP _ cs

@[simp] theorem split_nil (separator : Char) : split separator [] = [[]] := rfl

theorem split_of_not_mem (h : separator ∉ cs) : split separator cs = [cs] := by
  rw [split_eq_splitOn, List.splitOn_eq_singleton h]

theorem split_append_cons (before behind : List Char) :
    split separator (before ++ separator :: behind) =
      split separator before ++ split separator behind := by
  simp only [split_eq_splitOn, List.splitOn_append_cons_self]

theorem splitOnce_append_cons {before after : List Char} (h : separator ∉ before) :
    splitOnce separator (before ++ separator :: after) = some (before, after) := by
  induction before with
  | nil => simp [splitOnce]
  | cons c before ih =>
    obtain ⟨hc, hbefore⟩ := not_or.mp (mt List.mem_cons.mpr h)
    simp [splitOnce, Ne.symm hc, ih hbefore]

theorem split_intercalate {pieces : List (List Char)}
    (h : ∀ piece ∈ pieces, separator ∉ piece) (hne : pieces ≠ []) :
    split separator ([separator].intercalate pieces) = pieces := by
  rw [split_eq_splitOn, List.splitOn_intercalate separator h hne]

theorem not_mem_of_mem_split {piece : List Char} (h : piece ∈ split separator cs) :
    separator ∉ piece := by
  induction cs generalizing piece with
  | nil => simp_all [split, splitWhen]
  | cons c cs ih =>
    simp only [split_eq_splitOn, List.splitOn_cons_eq_if_modifyHead] at h ih
    split at h
    case isTrue hc =>
      rcases List.mem_cons.mp h with rfl | h
      · exact List.not_mem_nil
      · exact ih h
    case isFalse hc =>
      obtain ⟨first, others, hs⟩ := List.exists_cons_of_ne_nil (List.splitOn_ne_nil separator cs)
      rw [hs, List.modifyHead_cons] at h
      rcases List.mem_cons.mp h with rfl | h
      · have hfirst := ih (hs ▸ List.mem_cons_self)
        simp only [List.mem_cons, not_or]
        exact ⟨fun hs => hc (by simp [hs]), hfirst⟩
      · exact ih (hs ▸ List.mem_cons_of_mem _ h)

theorem intercalate_cons {α : Type} (separator : α) (first : List α) (others : List (List α)) :
    [separator].intercalate (first :: others) = first ++ others.flatMap (separator :: ·) := by
  induction others generalizing first with
  | nil => simp [List.intercalate]
  | cons next others ih =>
    rw [List.intercalate_cons_cons, ih, List.flatMap_cons, List.append_assoc, List.singleton_append,
      List.cons_append]

theorem mem_of_mem_intercalate {α : Type} {separator c : α} {pieces : List (List α)}
    (h : c ∈ [separator].intercalate pieces) : c = separator ∨ ∃ piece ∈ pieces, c ∈ piece := by
  cases pieces with
  | nil => simp [List.intercalate] at h
  | cons first others =>
    rw [intercalate_cons, List.mem_append, List.mem_flatMap] at h
    rcases h with hfirst | ⟨piece, hpiece, hmem⟩
    · exact .inr ⟨first, List.mem_cons_self, hfirst⟩
    · exact (List.mem_cons.mp hmem).imp_right fun hmem =>
        ⟨piece, List.mem_cons_of_mem first hpiece, hmem⟩

/-- Pieces that are joined without a separator between them are one or none. -/
theorem length_of_not_mem_intercalate {pieces : List (List Char)}
    (h : separator ∉ [separator].intercalate pieces) : pieces.length ≤ 1 := by
  match pieces with
  | [] | [_] => simp
  | first :: next :: pieces => simp [List.intercalate_cons_cons] at h

/-- What is put behind a text goes to its last piece, which is empty only for an empty text and
behind a separator. -/
theorem exists_split_append (cs suffix : List Char) (h : separator ∉ suffix) :
    ∃ pieces last, split separator cs = pieces ++ [last] ∧
      split separator (cs ++ suffix) = pieces ++ [last ++ suffix] ∧
      (last = [] → cs = [] ∨ cs.getLast? = some separator) := by
  by_cases hmem : separator ∈ cs
  · obtain ⟨reversed, front, hcs, hlast⟩ :=
      List.eq_append_cons_of_mem (List.mem_reverse.mpr hmem)
    obtain rfl : cs = front.reverse ++ separator :: reversed.reverse := by
      rw [← List.reverse_reverse cs, hcs]
      simp
    have hlast : separator ∉ reversed.reverse := by simpa using hlast
    have hbehind : separator ∉ reversed.reverse ++ suffix := by
      rw [List.mem_append, not_or]
      exact ⟨hlast, h⟩
    refine ⟨split separator front.reverse, reversed.reverse, ?_, ?_, ?_⟩
    · rw [split_append_cons, split_of_not_mem hlast]
    · rw [List.append_assoc, List.cons_append, split_append_cons, split_of_not_mem hbehind]
    · intro hempty
      simp [hempty]
  · refine ⟨[], cs, split_of_not_mem hmem, split_of_not_mem (by simp [h, hmem]), .inl⟩

end TreeTypes.Text
