import Mathlib.Data.List.TakeWhile
import TreeTypes.Proofs.Text.Pieces
import TreeTypes.Text.SnakeCase

/-!
# Words of names

Cutting a name into words loses its separators and nothing else, and no word is empty. A run of
letters that begins with a capital is a single word only if its other letters are all small or all
capitals, since the words are cut between a small letter and a capital and before the last capital
of a row.
-/

namespace TreeTypes.Text

variable {c : Char} {cs behind rest word : List Char} {mode : LetterMode}

theorem isAlphanumeric_of_ascii (h : c.toNat < 0x80) : isAlphanumeric c = c.isAlphanum := by
  simp [isAlphanumeric, h]

theorem isUpper_of_ascii (h : c.toNat < 0x80) : isUpper c = c.isUpper := by
  simp [isUpper, h]

theorem isLower_of_ascii (h : c.toNat < 0x80) : isLower c = c.isLower := by
  simp [isLower, h]

theorem lowerChar_of_ascii (h : c.toNat < 0x80) : lowerChar c = [c.toLower] := by
  simp [lowerChar, h]

/-- Lowering a character of ASCII gives no other character in front of the small letters. -/
theorem toLower_ne {other : Char} (h : c ≠ other) (hother : other.toNat < 97) :
    c.toLower ≠ other := by
  delta Char.toLower
  split
  case isTrue hupper =>
    rintro rfl
    have hcode : (c.val + 32).toNat < 97 := hother
    have hfirst : 65 ≤ c.val.toNat := UInt32.le_iff_toNat_le.mp hupper.1
    have hlast : c.val.toNat ≤ 90 := UInt32.le_iff_toNat_le.mp hupper.2
    rw [UInt32.toNat_add] at hcode
    simp only [UInt32.reduceToNat] at hcode
    omega
  case isFalse => exact h

theorem lowerWord_of_ascii (h : ∀ c ∈ cs, c.toNat < 0x80) : lowerWord cs = cs.map Char.toLower := by
  induction cs with
  | nil => rfl
  | cons c rest ih =>
    obtain ⟨hc, hrest⟩ := List.forall_mem_cons.mp h
    have hsigma : c ≠ capitalSigma := by
      rintro rfl
      exact absurd hc (by decide)
    cases rest with
    | nil => simp [lowerWord, hsigma, lowerChar_of_ascii hc]
    | cons next rest =>
      rw [lowerWord, ih hrest, lowerChar_of_ascii hc]
      · rfl
      · simp

/-- A run is cut between its characters. -/
theorem flatten_caseWords (mode : LetterMode) (word cs : List Char) :
    (caseWords mode word cs).flatten = word.reverse ++ cs := by
  fun_induction caseWords mode word cs with
  | case1 mode word hempty => simp_all
  | case2 mode word hempty => simp
  | case3 mode word c => simp
  | case4 mode word c next rest hcut ih => simp [ih]
  | case5 mode word c next rest _ hcut ih => simp [ih]
  | case6 mode word c next rest _ _ ih => simp [ih]

/-- No word is empty, since a row of capitals is cut behind a character of the current word. -/
theorem ne_nil_of_mem_caseWords (hmode : mode = .upper → word ≠ []) :
    ∀ found ∈ caseWords mode word cs, found ≠ [] := by
  fun_induction caseWords mode word cs with
  | case1 mode word hempty => simp
  | case2 mode word hempty => simp_all
  | case3 mode word c => simp
  | case4 mode word c next rest hcut ih => simpa using ih (by rintro ⟨⟩)
  | case5 mode word c next rest _ hcut ih => simpa [hmode hcut.1] using ih (by rintro ⟨⟩)
  | case6 mode word c next rest _ _ ih => exact ih fun _ => List.cons_ne_nil _ _

theorem caseWords_ne_nil (h : word.reverse ++ cs ≠ []) : caseWords mode word cs ≠ [] := by
  intro hnil
  apply h
  rw [← flatten_caseWords mode, hnil]
  rfl

/-- Behind a small letter a single word goes on with small letters. -/
theorem isLower_of_length_caseWords (hcased : ∀ x ∈ c :: rest, isUpper x = !isLower x)
    (hc : isLower c = true) (h : (caseWords mode word (c :: rest)).length = 1) :
    ∀ x ∈ rest, isLower x = true := by
  induction rest generalizing mode word c with
  | nil => simp
  | cons next rest ih =>
    obtain ⟨hupper, hcased⟩ := List.forall_mem_cons.mp hcased
    have hafter : mode.after c = .lower := by simp [LetterMode.after, hc]
    simp only [caseWords, hafter, hupper, hc, true_and, Bool.not_true, Bool.false_eq_true,
      false_and, and_false, ↓reduceIte] at h
    split at h
    case isTrue =>
      have hne : caseWords .start [] (next :: rest) ≠ [] := caseWords_ne_nil (by simp)
      simp [hne] at h
    case isFalse hnext =>
      have hlower : isLower next = true := by
        simpa [hcased next List.mem_cons_self] using hnext
      exact List.forall_mem_cons.mpr ⟨hlower, ih hcased hlower h⟩

/-- Behind a row of capitals a single word goes on with capitals. -/
theorem isUpper_of_length_caseWords (hcased : ∀ x ∈ c :: rest, isUpper x = !isLower x)
    (hc : isUpper c = true) (h : (caseWords .upper word (c :: rest)).length = 1) :
    ∀ x ∈ rest, isUpper x = true := by
  induction rest generalizing word c with
  | nil => simp
  | cons next rest ih =>
    obtain ⟨hupper, hcased⟩ := List.forall_mem_cons.mp hcased
    have hlower : isLower c = false := by simpa [hc] using hupper
    have hafter : LetterMode.upper.after c = .upper := by simp [LetterMode.after, hc, hlower]
    simp only [caseWords, hafter, hc, reduceCtorEq, true_and, false_and, ↓reduceIte] at h
    split at h
    case isTrue =>
      have hne : caseWords .start [c] (next :: rest) ≠ [] := caseWords_ne_nil (by simp)
      simp [hne] at h
    case isFalse hnext =>
      have hnext : isUpper next = true := by
        simpa [hcased next List.mem_cons_self] using hnext
      exact List.forall_mem_cons.mpr ⟨hnext, ih hcased hnext h⟩

/-- A single word that begins with a capital goes on with small letters only or capitals only. -/
theorem lower_or_upper_of_length_caseWords (hcased : ∀ x ∈ c :: rest, isUpper x = !isLower x)
    (hc : isUpper c = true) (h : (caseWords .start [] (c :: rest)).length = 1) :
    (∀ x ∈ rest, isLower x = true) ∨ ∀ x ∈ rest, isUpper x = true := by
  cases rest with
  | nil => simp
  | cons next rest =>
    obtain ⟨hupper, hcased⟩ := List.forall_mem_cons.mp hcased
    have hlower : isLower c = false := by simpa [hc] using hupper
    have hafter : LetterMode.start.after c = .upper := by simp [LetterMode.after, hc, hlower]
    simp only [caseWords, hafter, reduceCtorEq, false_and, ↓reduceIte] at h
    by_cases hnext : isLower next = true
    · exact .inl (List.forall_mem_cons.mpr ⟨hnext, isLower_of_length_caseWords hcased hnext h⟩)
    · have hnext : isUpper next = true := by simpa [hcased next List.mem_cons_self] using hnext
      exact .inr (List.forall_mem_cons.mpr ⟨hnext, isUpper_of_length_caseWords hcased hnext h⟩)

theorem nameWords_append_cons (hc : isAlphanumeric c = false) (front : List Char) :
    nameWords (front ++ c :: behind) = nameWords front ++ nameWords behind := by
  simp only [nameWords, splitWhen_eq_splitOnP]
  rw [List.splitOnP_append_cons front behind (by simp [hc]), List.flatMap_append]

theorem nameWords_of_run (h : ∀ c ∈ cs, isAlphanumeric c = true) :
    nameWords cs = caseWords .start [] cs := by
  rw [nameWords, splitWhen_eq_splitOnP, List.splitOnP_eq_singleton (by simpa using h)]
  simp

theorem nameWords_append_separators {separator : Char}
    (hseparator : isAlphanumeric separator = false) (cs : List Char) (n : Nat) :
    nameWords (cs ++ List.replicate n separator) = nameWords cs := by
  induction n with
  | zero => simp
  | succ n ih =>
    have hnil : nameWords [] = [] := rfl
    rw [List.replicate_succ', ← List.append_assoc, nameWords_append_cons hseparator, ih, hnil,
      List.append_nil]

theorem ne_nil_of_mem_nameWords (h : word ∈ nameWords cs) : word ≠ [] := by
  obtain ⟨run, -, hmem⟩ := List.mem_flatMap.mp h
  exact ne_nil_of_mem_caseWords (by rintro ⟨⟩) word hmem

theorem flatten_splitWhen (p : Char → Bool) (cs : List Char) :
    (splitWhen p cs).flatten = cs.filter (!p ·) := by
  induction cs with
  | nil => rfl
  | cons c cs ih =>
    obtain ⟨piece, pieces, hpieces⟩ := List.exists_cons_of_ne_nil (splitWhen_ne_nil p cs)
    rw [hpieces, List.flatten_cons] at ih
    by_cases hc : p c = true
    · simp [splitWhen, hc, hpieces, ← ih]
    · simp [splitWhen, hc, hpieces, ← ih]

/-- The words of a name are its letters and numbers. -/
theorem flatten_nameWords (cs : List Char) : (nameWords cs).flatten = cs.filter isAlphanumeric := by
  have hwords : ∀ runs : List (List Char),
      (runs.flatMap (caseWords .start [])).flatten = runs.flatten := by
    intro runs
    induction runs with
    | nil => rfl
    | cons run runs ih =>
      rw [List.flatMap_cons, List.flatten_append, ih, flatten_caseWords]
      rfl
  rw [nameWords, hwords, flatten_splitWhen]
  simp

theorem nameWords_eq_nil_iff : nameWords cs = [] ↔ ∀ c ∈ cs, isAlphanumeric c = false := by
  constructor
  · intro hnil c hc
    have hflat := flatten_nameWords cs
    rw [hnil, List.flatten_nil, eq_comm, List.filter_eq_nil_iff] at hflat
    simpa using hflat c hc
  · intro hnone
    by_contra hne
    obtain ⟨first, words, hwords⟩ := List.exists_cons_of_ne_nil hne
    have hmem : first ∈ nameWords cs := hwords ▸ List.mem_cons_self
    have hfirst := ne_nil_of_mem_nameWords hmem
    have hflat := flatten_nameWords cs
    rw [List.filter_eq_nil_iff.mpr fun c hc => by simp [hnone c hc], hwords] at hflat
    simp [hfirst] at hflat

theorem nameWords_run_append {run : List Char} (hrun : ∀ c ∈ run, isAlphanumeric c = true)
    (hrest : ∀ c, rest.head? = some c → isAlphanumeric c = false) :
    nameWords (run ++ rest) = caseWords .start [] run ++ nameWords rest := by
  have hnil : nameWords [] = [] := rfl
  cases rest with
  | nil => rw [List.append_nil, hnil, List.append_nil, nameWords_of_run hrun]
  | cons c behind =>
    have hc := hrest c rfl
    rw [nameWords_append_cons hc, nameWords_of_run hrun, ← List.nil_append (c :: behind),
      nameWords_append_cons hc, hnil, List.nil_append]

/-- A name of a single word is a run with separators behind it. -/
theorem exists_run_of_nameWords_eq_singleton (hc : isAlphanumeric c = true)
    (h : nameWords (c :: cs) = [word]) : ∃ tail rest, cs = tail ++ rest ∧ word = c :: tail ∧
      (caseWords .start [] (c :: tail)).length = 1 ∧ ∀ x ∈ rest, isAlphanumeric x = false := by
  have hrun : ∀ x ∈ c :: cs.takeWhile isAlphanumeric, isAlphanumeric x = true :=
    List.forall_mem_cons.mpr ⟨hc, fun x hx => List.mem_takeWhile_imp hx⟩
  have hstop : ∀ x, (cs.dropWhile isAlphanumeric).head? = some x → isAlphanumeric x = false := by
    intro x hx
    simpa [hx] using List.head?_dropWhile_not isAlphanumeric cs
  have hcut := nameWords_run_append hrun hstop
  rw [List.cons_append, List.takeWhile_append_dropWhile, h] at hcut
  have hne : caseWords .start [] (c :: cs.takeWhile isAlphanumeric) ≠ [] :=
    caseWords_ne_nil (by simp)
  obtain ⟨first, others, hfirst⟩ := List.exists_cons_of_ne_nil hne
  rw [hfirst, List.cons_append, List.cons.injEq] at hcut
  obtain ⟨rfl, hothers⟩ := hcut
  obtain ⟨rfl, hrest⟩ := List.append_eq_nil_iff.mp hothers.symm
  have hflat := flatten_caseWords .start [] (c :: cs.takeWhile isAlphanumeric)
  rw [hfirst, List.flatten_singleton] at hflat
  refine ⟨cs.takeWhile isAlphanumeric, cs.dropWhile isAlphanumeric,
    List.takeWhile_append_dropWhile.symm, hflat, ?_, nameWords_eq_nil_iff.mp hrest⟩
  rw [hfirst]
  rfl

theorem mem_of_mem_nameWords {x : Char} (hword : word ∈ nameWords cs) (hx : x ∈ word) :
    x ∈ cs ∧ isAlphanumeric x = true := by
  rw [← List.mem_filter, ← flatten_nameWords]
  exact List.mem_flatten.mpr ⟨word, hword, hx⟩

theorem toList_snakeCase {name : String} (h : ∀ c ∈ name.toList, c.toNat < 0x80) :
    (snakeCase name).toList =
      ['_'].intercalate ((nameWords name.toList).map (·.map Char.toLower)) := by
  rw [snakeCase, String.toList_ofList]
  congr 1
  refine List.map_congr_left fun word hword => lowerWord_of_ascii fun c hc => ?_
  exact h c (mem_of_mem_nameWords hword hc).1

theorem ofNat_ne {n : Nat} (hc : c ≠ '\x00') (h : c.toNat < n) : Char.ofNat n ≠ c := by
  by_cases hvalid : n.isValidChar
  · have hcode : (Char.ofNat n).toNat = n := by
      rw [Char.ofNat, dif_pos hvalid]
      rfl
    rintro rfl
    exact absurd hcode (Nat.ne_of_lt h)
  · rw [Char.ofNat, dif_neg hvalid]
    exact hc.symm

theorem colon_not_mem_lowerChar (h : c ≠ ':') : ':' ∉ lowerChar c := by
  unfold lowerChar
  split
  case isTrue => simpa using (toLower_ne h (by decide)).symm
  case isFalse =>
    split
    case isTrue => decide
    case isFalse =>
      split
      case h_1 run distance hfound =>
        -- Every run beyond ASCII is moved to letters, which stand behind the colon.
        have hall : ∀ step ∈ lowerSteps, 97 ≤ (step.1.first : Int) + step.2 := by decide +kernel
        have hfirst := hall _ (List.mem_of_find?_eq_some hfound)
        have hcontains := List.find?_some hfound
        obtain ⟨hle, -, -⟩ := (CodeRun.contains_iff run c.toNat).mp hcontains
        have hbehind : 58 < ((c.toNat : Int) + distance).toNat := by
          simp only at hfirst hle
          omega
        exact mt List.mem_singleton.mp (ofNat_ne (by decide) hbehind).symm
      case h_2 => simpa using h.symm

theorem colon_not_mem_lowerWord (h : ':' ∉ word) : ':' ∉ lowerWord word := by
  fun_induction lowerWord word with
  | case1 => simp
  | case2 => decide
  | case3 c hsigma => exact colon_not_mem_lowerChar (by grind)
  | case4 c rest hrest ih =>
    obtain ⟨hc, hrest⟩ := not_or.mp (mt List.mem_cons.mpr h)
    rw [List.mem_append, not_or]
    exact ⟨colon_not_mem_lowerChar (Ne.symm hc), ih hrest⟩

/-- A name in snake case holds no colon. -/
theorem colon_not_mem_snakeCase (name : String) : ':' ∉ (snakeCase name).toList := by
  rw [snakeCase, String.toList_ofList]
  intro hcolon
  rcases mem_of_mem_intercalate hcolon with heq | ⟨piece, hpiece, hmem⟩
  · cases heq
  · obtain ⟨word, hword, rfl⟩ := List.mem_map.mp hpiece
    refine colon_not_mem_lowerWord (fun hin => ?_) hmem
    exact absurd (mem_of_mem_nameWords hword hin).2 (by decide)

end TreeTypes.Text
