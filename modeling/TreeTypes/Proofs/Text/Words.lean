import Mathlib.Data.List.DropRight
import Mathlib.Data.List.TakeWhile
import TreeTypes.Proofs.Text.Pieces

/-!
# Words of a text

A text is a row of words with blanks between and around them. A blank cuts a text into two whose
words are read one after the other, and from this equation follows which texts have no word, which
begin with a given word and which hold exactly two.
-/

namespace TreeTypes.Text

variable {c : Char} {cs before behind core rest word : List Char} {others : List (List Char)}

/-- A text holds nothing but blanks. -/
def Blank (cs : List Char) : Prop := ∀ c ∈ cs, isBlank c = true

/-- A text holds no blank, and it holds something. -/
def Solid (cs : List Char) : Prop := cs ≠ [] ∧ ∀ c ∈ cs, isBlank c = false

theorem Blank.nil : Blank [] := by simp [Blank]

theorem Blank.append (h : Blank cs) (h' : Blank behind) : Blank (cs ++ behind) := by
  intro c hc
  exact (List.mem_append.mp hc).elim (h c) (h' c)

theorem Blank.not_mem (h : Blank cs) (hc : isBlank c = false) : c ∉ cs := by
  intro hmem
  simp [h c hmem] at hc

theorem words_append_cons (hc : isBlank c = true) (front : List Char) :
    words (front ++ c :: behind) = words front ++ words behind := by
  simp only [words, splitWhen_eq_splitOnP, List.splitOnP_append_cons front behind hc,
    List.filter_append]

theorem words_append_of_blank (h : Blank before) : words (before ++ cs) = words cs := by
  induction before with
  | nil => rfl
  | cons c before ih =>
    obtain ⟨hc, hbefore⟩ := List.forall_mem_cons.mp h
    have hcut : words (c :: (before ++ cs)) = words (before ++ cs) := words_append_cons hc []
    rw [List.cons_append, hcut]
    exact ih hbefore

theorem words_of_blank (h : Blank cs) : words cs = [] := by
  have hwords : words (cs ++ []) = words [] := words_append_of_blank h
  rwa [List.append_nil] at hwords

theorem words_of_solid (h : Solid cs) : words cs = [cs] := by
  rw [words, splitWhen_eq_splitOnP, List.splitOnP_eq_singleton h.2]
  simp [h.1]

/-- A word ends at the end of a text or before a blank. -/
theorem words_solid_append (h : Solid word) (hrest : ∀ c, rest.head? = some c → isBlank c = true) :
    words (word ++ rest) = word :: words rest := by
  cases rest with
  | nil =>
    rw [List.append_nil]
    exact words_of_solid h
  | cons c rest =>
    have hc := hrest c rfl
    rw [words_append_cons hc, words_of_solid h, ← List.nil_append (c :: rest),
      words_append_cons hc]
    rfl

/-- A text is blank, or it begins with a word behind blanks. -/
theorem blank_or_exists_word (cs : List Char) : Blank cs ∨
    ∃ before word rest, cs = before ++ word ++ rest ∧ Blank before ∧ Solid word ∧
      ∀ c, rest.head? = some c → isBlank c = true := by
  have hblank : Blank (cs.takeWhile isBlank) := fun c hc => List.mem_takeWhile_imp hc
  have hcs : cs.takeWhile isBlank ++ cs.dropWhile isBlank = cs := List.takeWhile_append_dropWhile
  have hstop := List.head?_dropWhile_not isBlank cs
  cases htail : cs.dropWhile isBlank with
  | nil =>
    rw [htail, List.append_nil] at hcs
    exact .inl (hcs ▸ hblank)
  | cons first tail =>
    have hfirst : isBlank first = false := by simpa [htail] using hstop
    refine .inr ⟨cs.takeWhile isBlank, (first :: tail).takeWhile (!isBlank ·),
      (first :: tail).dropWhile (!isBlank ·), ?_, hblank, ⟨?_, ?_⟩, ?_⟩
    · rw [List.append_assoc, List.takeWhile_append_dropWhile, ← htail, hcs]
    · simp [hfirst]
    · intro c hc
      simpa using List.mem_takeWhile_imp hc
    · intro c hc
      simpa [hc] using List.head?_dropWhile_not (!isBlank ·) (first :: tail)

theorem words_eq_nil_iff : words cs = [] ↔ Blank cs := by
  constructor
  · intro hwords
    rcases blank_or_exists_word cs with hblank | ⟨before, word, rest, rfl, hbefore, hword, hrest⟩
    · exact hblank
    · rw [List.append_assoc, words_append_of_blank hbefore,
        words_solid_append hword hrest] at hwords
      simp at hwords
  · exact words_of_blank

theorem words_eq_cons_iff : words cs = word :: others ↔
    ∃ before rest, cs = before ++ word ++ rest ∧ Blank before ∧ Solid word ∧
      (∀ c, rest.head? = some c → isBlank c = true) ∧ words rest = others := by
  constructor
  · intro hwords
    rcases blank_or_exists_word cs with hblank | ⟨before, first, rest, rfl, hbefore, hfirst, hrest⟩
    · simp [words_of_blank hblank] at hwords
    · rw [List.append_assoc, words_append_of_blank hbefore,
        words_solid_append hfirst hrest] at hwords
      obtain ⟨rfl, rfl⟩ := List.cons.inj hwords
      exact ⟨before, rest, rfl, hbefore, hfirst, hrest, rfl⟩
  · rintro ⟨before, rest, rfl, hbefore, hword, hrest, rfl⟩
    rw [List.append_assoc, words_append_of_blank hbefore, words_solid_append hword hrest]

/-- A text of two words has blanks between them. -/
theorem words_eq_pair_iff {first second : List Char} : words cs = [first, second] ↔
    ∃ before gap behind, cs = before ++ first ++ gap ++ second ++ behind ∧ Blank before ∧
      Solid first ∧ Blank gap ∧ gap ≠ [] ∧ Solid second ∧ Blank behind := by
  constructor
  · intro hwords
    obtain ⟨before, rest, rfl, hbefore, hfirst, hstop, hrest⟩ := words_eq_cons_iff.mp hwords
    obtain ⟨gap, behind, rfl, hgap, hsecond, -, hbehind⟩ := words_eq_cons_iff.mp hrest
    refine ⟨before, gap, behind, by simp, hbefore, hfirst, hgap, ?_, hsecond,
      words_eq_nil_iff.mp hbehind⟩
    -- Without a blank in between the second word would go on with the first.
    rintro rfl
    obtain ⟨c, tail, rfl⟩ := List.exists_cons_of_ne_nil hsecond.1
    simp [hsecond.2 c (by simp)] at hstop
  · rintro ⟨before, gap, behind, rfl, hbefore, hfirst, hgap, hne, hsecond, hbehind⟩
    have hstop : ∀ c, (gap ++ (second ++ behind)).head? = some c → isBlank c = true := by
      obtain ⟨c, tail, rfl⟩ := List.exists_cons_of_ne_nil hne
      simpa using hgap c (by simp)
    have hstop' : ∀ c, behind.head? = some c → isBlank c = true :=
      fun c hc => hbehind c (List.mem_of_head? hc)
    simp only [List.append_assoc]
    rw [words_append_of_blank hbefore, words_solid_append hfirst hstop,
      words_append_of_blank hgap, words_solid_append hsecond hstop', words_of_blank hbehind]

/-- A text is another one without the blanks at its ends. -/
structure Trims (cs core : List Char) : Prop where
  split : ∃ before behind, cs = before ++ core ++ behind ∧ Blank before ∧ Blank behind
  first : ∀ c, core.head? = some c → isBlank c = false
  last : ∀ c, core.getLast? = some c → isBlank c = false

theorem Trims.of_solid (hbefore : Blank before) (hcore : Solid core) (hbehind : Blank behind) :
    Trims (before ++ core ++ behind) core where
  split := ⟨before, behind, rfl, hbefore, hbehind⟩
  first := fun c hc => hcore.2 c (List.mem_of_head? hc)
  last := fun c hc => hcore.2 c (List.mem_of_getLast? hc)

theorem trims_nil_iff : Trims cs [] ↔ Blank cs := by
  constructor
  · rintro ⟨⟨before, behind, rfl, hbefore, hbehind⟩, -, -⟩
    rw [List.append_nil]
    exact hbefore.append hbehind
  · intro hblank
    exact ⟨⟨cs, [], by simp, hblank, .nil⟩, by simp, by simp⟩

theorem trimEnd_append (hlast : ∀ c, core.getLast? = some c → isBlank c = false)
    (hbehind : Blank behind) : trimEnd (core ++ behind) = core := by
  have hkept : core.reverse.dropWhile isBlank = core.reverse := by
    cases hreverse : core.reverse with
    | nil => rfl
    | cons c front =>
      have hc : core.getLast? = some c := by rw [← List.head?_reverse, hreverse, List.head?_cons]
      exact List.dropWhile_cons_of_neg (by simp [hlast c hc])
  rw [trimEnd, List.reverse_append,
    List.dropWhile_append_of_pos fun c hc => hbehind c (List.mem_reverse.mp hc), hkept,
    List.reverse_reverse]

theorem Trims.trim_eq (h : Trims cs core) : trim cs = core := by
  obtain ⟨⟨before, behind, rfl, hbefore, hbehind⟩, hfirst, hlast⟩ := h
  rw [trim, trimStart, List.append_assoc, List.dropWhile_append_of_pos hbefore]
  cases core with
  | nil =>
    rw [List.nil_append, List.dropWhile_eq_nil_iff.mpr hbehind]
    rfl
  | cons c core =>
    rw [List.cons_append, List.dropWhile_cons_of_neg (by simp [hfirst c rfl])]
    exact trimEnd_append hlast hbehind

theorem trimEnd_eq_rdropWhile (cs : List Char) : trimEnd cs = cs.rdropWhile isBlank := rfl

theorem isBlank_of_getLast?_trimEnd (h : (trimEnd cs).getLast? = some c) : isBlank c = false := by
  rw [trimEnd_eq_rdropWhile] at h
  have hne : cs.rdropWhile isBlank ≠ [] := fun hnil => by simp [hnil] at h
  have hlast := List.rdropWhile_last_not isBlank cs hne
  rw [List.getLast?_eq_some_getLast hne] at h
  simpa [Option.some.inj h] using hlast

theorem trims_trim (cs : List Char) : Trims cs (trim cs) := by
  have hcore : trim cs = (trimStart cs).rdropWhile isBlank := trimEnd_eq_rdropWhile (trimStart cs)
  have hprefix : trim cs <+: trimStart cs := hcore ▸ List.rdropWhile_prefix isBlank (trimStart cs)
  refine ⟨⟨cs.takeWhile isBlank, (trimStart cs).rtakeWhile isBlank, ?_, ?_, ?_⟩, ?_, ?_⟩
  · rw [hcore, List.append_assoc, List.rdropWhile_append_rtakeWhile, trimStart,
      List.takeWhile_append_dropWhile]
  · exact fun c hc => List.mem_takeWhile_imp hc
  · exact fun c hc => List.mem_rtakeWhile_imp hc
  · intro c hc
    have hfirst : (cs.dropWhile isBlank).head? = some c := by
      obtain ⟨behind, hbehind⟩ := hprefix
      rw [← trimStart, ← hbehind, List.head?_append, hc, Option.some_or]
    simpa [hfirst] using List.head?_dropWhile_not isBlank cs
  · exact fun c hc => isBlank_of_getLast?_trimEnd hc

theorem trims_iff : Trims cs core ↔ trim cs = core := by
  constructor
  · exact Trims.trim_eq
  · rintro rfl
    exact trims_trim cs

end TreeTypes.Text
