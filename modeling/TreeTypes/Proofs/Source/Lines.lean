/-!
# Names on lines

A declaration begins with its keywords, and the name that it declares ends at the next blank or
parenthesis. `nameBehind?` reads this name off a line.
-/

namespace TreeTypes.Source

/-- The name on a line that begins with `front`: what follows, up to the character `stop`. -/
def nameBehind? (front : String) (stop : Char) (line : String) : Option String :=
  if front.toList <+: line.toList then
    some (String.ofList ((line.toList.drop front.length).takeWhile (· != stop)))
  else none

variable {front other name line : String} {stop : Char}

/-- Two texts differ before either of them ends. -/
def Diverge (text other : String) : Prop :=
  ¬ text.toList <+: other.toList ∧ ¬ other.toList <+: text.toList

instance (text other : String) : Decidable (Diverge text other) :=
  inferInstanceAs (Decidable (¬ text.toList <+: other.toList ∧ ¬ other.toList <+: text.toList))

/-- Texts that diverge go on to do so, whatever follows. -/
theorem Diverge.not_prefix_append (h : Diverge front other) (rest : String) :
    ¬ front.toList <+: (other ++ rest).toList := by
  intro hfront
  have hother : other.toList <+: (other ++ rest).toList := by
    rw [String.toList_append]
    exact List.prefix_append _ _
  exact (List.prefix_or_prefix_of_prefix hfront hother).elim h.1 h.2

/-- A line that begins in another way has no name behind `front`. -/
theorem nameBehind?_of_diverge (h : Diverge front other) (rest : String) :
    nameBehind? front stop (other ++ rest) = none :=
  if_neg (h.not_prefix_append rest)

theorem nameBehind?_of_toList_eq {rest : List Char} (h : stop ∉ name.toList)
    (hline : line.toList = front.toList ++ (name.toList ++ stop :: rest)) :
    nameBehind? front stop line = some name := by
  have hkept : ∀ c ∈ name.toList, (c != stop) = true := by
    intro c hc
    simpa using fun heq : c = stop => h (heq ▸ hc)
  have hname : (name.toList ++ stop :: rest).takeWhile (· != stop) = name.toList := by
    rw [List.takeWhile_append_of_pos hkept]
    simp
  rw [nameBehind?, hline, if_pos (List.prefix_append _ _), List.drop_left' String.length_toList,
    hname, String.ofList_toList]

end TreeTypes.Source
