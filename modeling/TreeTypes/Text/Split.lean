import TreeTypes.Text.Blank

/-!
# Cutting text into pieces

Texts are cut as lists of characters. `splitWhen` keeps empty pieces and loses nothing but the
separators, which `intercalate_split` states for a single separator; `words` keeps only the pieces
between blanks that are not empty.
-/

namespace TreeTypes.Text

/-- The pieces between the characters that satisfy `p`, empty ones included. -/
def splitWhen (p : Char → Bool) : List Char → List (List Char)
  | [] => [[]]
  | c :: cs =>
    if p c then [] :: splitWhen p cs
    else match splitWhen p cs with
      | [] => [[c]]
      | piece :: pieces => (c :: piece) :: pieces

/-- The pieces between the occurrences of a separator, empty ones included. -/
def split (separator : Char) (cs : List Char) : List (List Char) :=
  splitWhen (· == separator) cs

/-- The text before the first occurrence of a separator and the text after it. -/
def splitOnce (separator : Char) : List Char → Option (List Char × List Char)
  | [] => none
  | c :: cs =>
    if c = separator then some ([], cs)
    else (splitOnce separator cs).map fun (before, after) => (c :: before, after)

/-- The text without the blanks at its front. -/
def trimStart (cs : List Char) : List Char :=
  cs.dropWhile isBlank

/-- The text without the blanks at its end. -/
def trimEnd (cs : List Char) : List Char :=
  (cs.reverse.dropWhile isBlank).reverse

/-- The text without the blanks at either end. -/
def trim (cs : List Char) : List Char :=
  trimEnd (trimStart cs)

/-- The pieces between blanks that are not empty. -/
def words (cs : List Char) : List (List Char) :=
  (splitWhen isBlank cs).filter (!·.isEmpty)

theorem splitWhen_ne_nil (p : Char → Bool) (cs : List Char) : splitWhen p cs ≠ [] := by
  cases cs with
  | nil => simp [splitWhen]
  | cons c cs => simp only [splitWhen]; split <;> (try split) <;> simp

/-- Joining the pieces with the separator gives the text back. -/
theorem intercalate_split (separator : Char) (cs : List Char) :
    [separator].intercalate (split separator cs) = cs := by
  induction cs with
  | nil => rfl
  | cons c cs ih =>
    have hne := splitWhen_ne_nil (· == separator) cs
    unfold split at ih ⊢
    simp only [splitWhen]
    split
    · rename_i h
      obtain ⟨piece, pieces, hp⟩ := List.exists_cons_of_ne_nil hne
      have hc : c = separator := by simpa using h
      subst hc
      simp_all [List.intercalate]
    · obtain ⟨piece, pieces, hp⟩ := List.exists_cons_of_ne_nil hne
      cases pieces <;> simp_all [List.intercalate]

theorem splitOnce_eq_none_iff {separator : Char} {cs : List Char} :
    splitOnce separator cs = none ↔ separator ∉ cs := by
  induction cs with
  | nil => simp [splitOnce]
  | cons c cs ih =>
    by_cases h : c = separator
    · simp [splitOnce, h]
    · simp [splitOnce, h, ih, Ne.symm h]

theorem splitOnce_eq_some {separator : Char} {cs before after : List Char}
    (h : splitOnce separator cs = some (before, after)) :
    cs = before ++ separator :: after ∧ separator ∉ before := by
  induction cs generalizing before with
  | nil => simp [splitOnce] at h
  | cons c cs ih =>
    by_cases hc : c = separator
    · simp [splitOnce, hc] at h
      obtain ⟨rfl, rfl⟩ := h
      simp [hc]
    · simp only [splitOnce, hc, ↓reduceIte, Option.map_eq_some_iff, Prod.mk.injEq,
        Prod.exists] at h
      obtain ⟨b, a, hs, rfl, rfl⟩ := h
      obtain ⟨rfl, hn⟩ := ih hs
      simp [hn, Ne.symm hc]

end TreeTypes.Text
