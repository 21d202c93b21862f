import Mathlib.Logic.Relation
import TreeTypes.Path
import TreeTypes.Proofs.Text.Pieces

/-!
# Spellings of one path

Two spellings have the same components when one can be respelled as the other: a slash may be
repeated or stand at the end, and a dot may stand between slashes or behind the last one. A step of
such a respelling stays one below any directory, so joining keeps spellings of one path together.
-/

namespace TreeTypes.Path

/-- A spelling with one slash or one dot less. -/
inductive Shortens : Path → Path → Prop
  | slash (front rest : String) : Shortens ⟨front ++ "//" ++ rest⟩ ⟨front ++ "/" ++ rest⟩
  | dot (front rest : String) : Shortens ⟨front ++ "/./" ++ rest⟩ ⟨front ++ "/" ++ rest⟩
  | lastDot (front : String) : Shortens ⟨front ++ "/."⟩ ⟨front ++ "/"⟩
  | lastSlash {front : String} : front ≠ "" → Shortens ⟨front ++ "/"⟩ ⟨front⟩

/-- Spellings that differ in repeated slashes, in slashes at the end and in dots behind slashes. -/
def Respelled : Path → Path → Prop := Relation.EqvGen Shortens

variable {p q : Path} {front rest : String}

/-- Where a path starts: at the root, in the current directory by a dot, or with a name. -/
def start (path : Path) : List Component :=
  if path.isAbsolute then [.root] else if path.pieces.head? = some "." then [.here] else []

/-- The components that are not skipped. -/
def steps (path : Path) : List Component :=
  (path.pieces.filter (!isSkipped ·)).map componentOf

theorem components_eq (path : Path) : path.components = path.start ++ path.steps := rfl

theorem pieces_append_slash (front rest : String) :
    pieces ⟨front ++ "/" ++ rest⟩ = pieces ⟨front⟩ ++ pieces ⟨rest⟩ := by
  have htext : (front ++ "/" ++ rest).toList = front.toList ++ '/' :: rest.toList := by simp
  simp only [pieces, htext, Text.split_append_cons, List.map_append]

theorem pieces_ne_nil (path : Path) : path.pieces ≠ [] := by
  simpa [pieces, Text.split] using Text.splitWhen_ne_nil _ path.text.toList

theorem head?_pieces_append_slash (front rest : String) :
    (pieces ⟨front ++ "/" ++ rest⟩).head? = (pieces ⟨front⟩).head? := by
  rw [pieces_append_slash, List.head?_append, List.head?_eq_some_head (pieces_ne_nil ⟨front⟩),
    Option.some_or]

theorem isAbsolute_append_slash (front rest : String) :
    isAbsolute ⟨front ++ "/" ++ rest⟩ = isAbsolute ⟨front ++ "/"⟩ := by
  cases h : front.toList <;> simp [isAbsolute, h]

theorem start_append_slash (front rest : String) :
    start ⟨front ++ "/" ++ rest⟩ = start ⟨front ++ "/"⟩ := by
  have hhead := head?_pieces_append_slash front ""
  rw [String.append_empty] at hhead
  rw [start, start, isAbsolute_append_slash, head?_pieces_append_slash, hhead]

theorem start_lastSlash (h : front ≠ "") : start ⟨front ++ "/"⟩ = start ⟨front⟩ := by
  have habsolute : isAbsolute ⟨front ++ "/"⟩ = isAbsolute ⟨front⟩ := by
    have hne : front.toList ≠ [] := by simpa using h
    obtain ⟨c, cs, hcs⟩ := List.exists_cons_of_ne_nil hne
    simp [isAbsolute, hcs]
  have hhead := head?_pieces_append_slash front ""
  rw [String.append_empty] at hhead
  rw [start, start, habsolute, hhead]

@[simp] theorem steps_append_slash (front rest : String) :
    steps ⟨front ++ "/" ++ rest⟩ = steps ⟨front⟩ ++ steps ⟨rest⟩ := by
  simp only [steps, pieces_append_slash, List.filter_append, List.map_append]

@[simp] theorem steps_empty : steps ⟨""⟩ = [] := rfl

@[simp] theorem steps_dot : steps ⟨"."⟩ = [] := rfl

theorem Shortens.same (h : Shortens p q) : p.Same q := by
  unfold Same
  rw [components_eq, components_eq]
  cases h with
  | slash front rest =>
    have htext : front ++ "//" ++ rest = front ++ "/" ++ ("" ++ "/" ++ rest) := by
      simp [← String.toList_inj]
    rw [htext, start_append_slash, start_append_slash]
    simp only [steps_append_slash, steps_empty, List.nil_append]
  | dot front rest =>
    have htext : front ++ "/./" ++ rest = front ++ "/" ++ ("." ++ "/" ++ rest) := by
      simp [← String.toList_inj]
    rw [htext, start_append_slash, start_append_slash]
    simp only [steps_append_slash, steps_dot, List.nil_append]
  | lastDot front =>
    have htext : front ++ "/." = front ++ "/" ++ "." := by simp [← String.toList_inj]
    have hslash : steps ⟨front ++ "/" ++ ""⟩ = steps ⟨front⟩ ++ steps ⟨""⟩ :=
      steps_append_slash front ""
    rw [htext, start_append_slash]
    simpa using hslash.symm
  | @lastSlash front hne =>
    have hslash : steps ⟨front ++ "/" ++ ""⟩ = steps ⟨front⟩ ++ steps ⟨""⟩ :=
      steps_append_slash front ""
    rw [start_lastSlash hne]
    simpa using hslash

theorem Shortens.respelled (h : Shortens p q) : Respelled p q := .rel p q h

namespace Respelled

theorem refl (path : Path) : Respelled path path := Relation.EqvGen.refl path

theorem symm (h : Respelled p q) : Respelled q p := Relation.EqvGen.symm p q h

theorem trans {r : Path} (h : Respelled p q) (h' : Respelled q r) : Respelled p r :=
  Relation.EqvGen.trans p q r h h'

theorem same (h : Respelled p q) : p.Same q := by
  induction h with
  | rel p q h => exact h.same
  | refl p => exact .refl p
  | symm p q _ ih => exact ih.symm
  | trans p q r _ _ ih ih' => exact ih.trans ih'

end Respelled

/-- Pieces with a slash in front of each. -/
def slashed : List String → String
  | [] => ""
  | piece :: rest => "/" ++ piece ++ slashed rest

/-- How a component is spelled. -/
def Component.spelling : Component → String
  | root => ""
  | here => "."
  | up => ".."
  | name text => text

/-- The shortest path with the given components. -/
def ofComponents : List Component → Path
  | [] => ⟨""⟩
  | .root :: rest => ⟨"/" ++ slashed (rest.map (·.spelling))⟩
  | first :: rest => ⟨first.spelling ++ slashed (rest.map (·.spelling))⟩

@[simp] theorem spelling_componentOf (piece : String) : (componentOf piece).spelling = piece := by
  unfold componentOf
  split <;> simp_all [Component.spelling]

theorem map_spelling_componentOf (pieces : List String) :
    (pieces.map componentOf).map (·.spelling) = pieces := by
  simp [Function.comp_def]

theorem isSkipped_iff {piece : String} : isSkipped piece = true ↔ piece = "" ∨ piece = "." := by
  simp [isSkipped]

theorem slashed_eq_append {pieces : List String} (h : pieces ≠ []) :
    ∃ rest, slashed pieces = "/" ++ rest := by
  cases pieces with
  | nil => exact absurd rfl h
  | cons piece pieces => exact ⟨piece ++ slashed pieces, by simp [slashed, String.append_assoc]⟩

/-- A piece that is skipped may be left out behind what is not empty. -/
theorem respelled_skip (hne : front ≠ "") {piece : String} (hskip : isSkipped piece = true)
    (pieces : List String) :
    Respelled ⟨front ++ slashed (piece :: pieces)⟩ ⟨front ++ slashed pieces⟩ := by
  by_cases hlast : pieces = []
  · subst hlast
    have hslash : Respelled ⟨front ++ "/"⟩ ⟨front⟩ := (Shortens.lastSlash hne).respelled
    rcases isSkipped_iff.mp hskip with rfl | rfl
    · simpa [slashed] using hslash
    · simpa [slashed] using (Shortens.lastDot front).respelled.trans hslash
  · obtain ⟨rest, hrest⟩ := slashed_eq_append hlast
    have hbehind : front ++ slashed pieces = front ++ "/" ++ rest := by
      rw [hrest, String.append_assoc]
    rcases isSkipped_iff.mp hskip with rfl | rfl
    · have hempty : front ++ slashed ("" :: pieces) = front ++ "//" ++ rest := by
        simp [slashed, hrest, ← String.toList_inj]
      rw [hempty, hbehind]
      exact (Shortens.slash front rest).respelled
    · have hdot : front ++ slashed ("." :: pieces) = front ++ "/./" ++ rest := by
        simp [slashed, hrest, ← String.toList_inj]
      rw [hdot, hbehind]
      exact (Shortens.dot front rest).respelled

theorem respelled_slashed (hne : front ≠ "") (pieces : List String) :
    Respelled ⟨front ++ slashed pieces⟩ ⟨front ++ slashed (pieces.filter (!isSkipped ·))⟩ := by
  induction pieces generalizing front with
  | nil => exact .refl _
  | cons piece rest ih =>
    by_cases hskip : isSkipped piece = true
    · rw [List.filter_cons_of_neg (by simp [hskip])]
      exact (respelled_skip hne hskip rest).trans (ih hne)
    · rw [List.filter_cons_of_pos (by simpa using hskip)]
      have hlonger : front ++ "/" ++ piece ≠ "" := by
        intro hempty
        simpa using congrArg String.toList hempty
      simpa only [slashed, String.append_assoc] using ih hlonger

theorem toList_slashed (pieces : List String) :
    (slashed pieces).toList = (pieces.map String.toList).flatMap ('/' :: ·) := by
  induction pieces with
  | nil => rfl
  | cons piece pieces ih => simp [slashed, ih]

theorem text_eq_slashed {first : String} {others : List String} (h : p.pieces = first :: others) :
    p.text = first ++ slashed others := by
  have hjoined := Text.intercalate_split '/' p.text.toList
  have hpieces : Text.split '/' p.text.toList = (first :: others).map String.toList := by
    rw [← h, pieces, List.map_map]
    simp [Function.comp_def]
  rw [hpieces, List.map_cons, Text.intercalate_cons, ← toList_slashed] at hjoined
  rw [← String.toList_inj, ← hjoined, String.toList_append]

theorem steps_of_pieces {first : String} {others : List String} (h : p.pieces = first :: others)
    (hskip : isSkipped first = true) :
    p.steps = (others.filter (!isSkipped ·)).map componentOf := by
  rw [steps, h, List.filter_cons_of_neg (by simp [hskip])]

/-- A path whose first piece is not empty does not start at the root. -/
theorem isAbsolute_of_ne {first : String} {others : List String} (h : p.pieces = first :: others)
    (hne : first ≠ "") : p.isAbsolute = false := by
  have hfirst : first.toList ≠ [] := by simpa using hne
  obtain ⟨c, cs, hcs⟩ := List.exists_cons_of_ne_nil hfirst
  have hslash : '/' ∉ first.toList := by
    have hmem : first ∈ p.pieces := h ▸ List.mem_cons_self
    obtain ⟨piece, hpiece, rfl⟩ := List.mem_map.mp hmem
    simpa using Text.not_mem_of_mem_split hpiece
  have hc : c ≠ '/' := fun hc => hslash (by simp [hcs, hc])
  simp [isAbsolute, text_eq_slashed h, hcs, hc]

theorem ofComponents_of_ne {first : String} {others : List String}
    (h : p.pieces = first :: others) (hne : first ≠ "") :
    ofComponents p.components = ⟨first ++ slashed (others.filter (!isSkipped ·))⟩ := by
  have habsolute := isAbsolute_of_ne h hne
  rw [components_eq]
  by_cases hdot : first = "."
  · subst hdot
    have hstart : p.start = [.here] := by simp [start, habsolute, h]
    rw [hstart, steps_of_pieces h (by decide)]
    simp only [List.singleton_append, ofComponents, map_spelling_componentOf]
    rfl
  · have hstart : p.start = [] := by simp [start, habsolute, h, hdot]
    have hsteps : p.steps =
        componentOf first :: (others.filter (!isSkipped ·)).map componentOf := by
      rw [steps, h, List.filter_cons_of_pos (by simp [isSkipped, hne, hdot]), List.map_cons]
    rw [hstart, hsteps, List.nil_append, ofComponents, spelling_componentOf,
      map_spelling_componentOf]
    unfold componentOf
    split <;> rintro ⟨⟩

theorem ofComponents_of_empty {others : List String} (h : p.pieces = "" :: others)
    (hne : others ≠ []) :
    ofComponents p.components = ⟨"/" ++ slashed (others.filter (!isSkipped ·))⟩ := by
  obtain ⟨rest, hrest⟩ := slashed_eq_append hne
  have hstart : p.start = [.root] := by simp [start, isAbsolute, text_eq_slashed h, hrest]
  rw [components_eq, hstart, steps_of_pieces h (by decide)]
  simp only [List.singleton_append, ofComponents, map_spelling_componentOf]

/-- Slashes at the front count as one. -/
theorem respelled_root {pieces : List String} (h : pieces ≠ []) :
    Respelled ⟨slashed pieces⟩ ⟨"/" ++ slashed pieces⟩ := by
  obtain ⟨rest, hrest⟩ := slashed_eq_append h
  have hslash : slashed pieces = "" ++ "/" ++ rest := by simpa using hrest
  have hslashes : "/" ++ slashed pieces = "" ++ "//" ++ rest := by
    simp [hrest, ← String.toList_inj]
  rw [hslashes, hslash]
  exact (Shortens.slash "" rest).respelled.symm

/-- Every path can be respelled as the shortest one with its components. -/
theorem respelled_ofComponents (path : Path) : Respelled path (ofComponents path.components) := by
  obtain ⟨first, others, hpieces⟩ := List.exists_cons_of_ne_nil (pieces_ne_nil path)
  have hpath : path = ⟨first ++ slashed others⟩ := by rw [← text_eq_slashed hpieces]
  by_cases hfirst : first = ""
  · subst hfirst
    rw [String.empty_append] at hpath
    by_cases hothers : others = []
    · subst hothers
      rw [hpath]
      exact .refl _
    · rw [ofComponents_of_empty hpieces hothers, hpath]
      exact (respelled_root hothers).trans (respelled_slashed (by decide) others)
  · rw [ofComponents_of_ne hpieces hfirst, hpath]
    exact respelled_slashed hfirst others

/-- Two paths are the same if one is a respelling of the other, and only then. -/
theorem same_iff_respelled : p.Same q ↔ Respelled p q := by
  constructor
  · intro h
    have hq := respelled_ofComponents q
    rw [← show p.components = q.components from h] at hq
    exact (respelled_ofComponents p).trans hq.symm
  · exact Respelled.same

/-- The text of a directory in front of a path that is read from it. -/
def entering (base : Path) : String :=
  if base.text.isEmpty || base.text.toList.getLast? == some '/' then base.text
  else base.text ++ "/"

theorem join_eq (base path : Path) :
    base.join path = if path.isAbsolute then path else ⟨base.entering ++ path.text⟩ := by
  unfold join entering
  split
  · rfl
  · split <;> rfl

theorem isAbsolute_iff : p.isAbsolute = true ↔ .root ∈ p.components := by
  have hroot : ∀ piece, componentOf piece ≠ .root := by
    intro piece
    unfold componentOf
    split <;> simp
  rw [components_eq, start, steps]
  cases p.isAbsolute with
  | true => simp
  | false =>
    simp only [Bool.false_eq_true, if_false]
    split <;> simp [hroot]

theorem Same.isAbsolute_eq (h : p.Same q) : p.isAbsolute = q.isAbsolute := by
  rw [Bool.eq_iff_iff, isAbsolute_iff, isAbsolute_iff, show p.components = q.components from h]

/-- A step of a respelling is one behind any text. -/
theorem Shortens.behind (h : Shortens p q) (text : String) :
    Shortens ⟨text ++ p.text⟩ ⟨text ++ q.text⟩ := by
  cases h with
  | slash front rest => simpa only [String.append_assoc] using slash (text ++ front) rest
  | dot front rest => simpa only [String.append_assoc] using dot (text ++ front) rest
  | lastDot front => simpa only [String.append_assoc] using lastDot (text ++ front)
  | @lastSlash front hne =>
    have hlonger : text ++ front ≠ "" := by simp [hne]
    simpa only [String.append_assoc] using lastSlash hlonger

theorem Respelled.join (base : Path) (h : Respelled p q) :
    Respelled (base.join p) (base.join q) := by
  induction h with
  | rel p q h =>
    rw [join_eq, join_eq, h.same.isAbsolute_eq]
    split
    · exact h.respelled
    · exact (h.behind base.entering).respelled
  | refl p => exact .refl _
  | symm p q _ ih => exact ih.symm
  | trans p q r _ _ ih ih' => exact ih.trans ih'

end TreeTypes.Path
