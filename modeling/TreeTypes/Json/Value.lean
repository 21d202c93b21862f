/-!
# JSON values

Members of an object keep the order of the text, and of several members with one key only one is
kept: it stands where the first of them stood and has the value of the last.
-/

namespace TreeTypes

/-- A JSON value. Numbers are kept as they are spelled. -/
inductive Json where
  | null
  | bool (value : Bool)
  | number (literal : String)
  | string (value : String)
  | array (elements : List Json)
  | object (members : List (String × Json))

namespace Json

/-- Add a member, replacing the value of an earlier one with the same key. -/
def insertMember {α : Type} (key : String) (value : α) : List (String × α) → List (String × α)
  | [] => [(key, value)]
  | (k, v) :: rest =>
    if k = key then (k, value) :: rest else (k, v) :: insertMember key value rest

theorem mem_keys_insertMember {α : Type} (key : String) (value : α) (members : List (String × α))
    (k : String) :
    k ∈ (insertMember key value members).map (·.1) ↔ k = key ∨ k ∈ members.map (·.1) := by
  induction members with
  | nil => simp [insertMember]
  | cons m rest ih =>
    obtain ⟨k', v⟩ := m
    by_cases h : k' = key
    · subst h; simp [insertMember]
    · simp only [insertMember, h, ↓reduceIte, List.map_cons, List.mem_cons, ih]
      grind

/-- Keys stay pairwise distinct. -/
theorem nodup_keys_insertMember {α : Type} (key : String) (value : α)
    (members : List (String × α)) (h : (members.map (·.1)).Nodup) :
    ((insertMember key value members).map (·.1)).Nodup := by
  induction members with
  | nil => simp [insertMember]
  | cons m rest ih =>
    obtain ⟨k', v⟩ := m
    simp only [List.map_cons, List.nodup_cons] at h
    by_cases hk : k' = key
    · subst hk; simpa [insertMember] using h
    · simp only [insertMember, hk, ↓reduceIte, List.map_cons, List.nodup_cons]
      refine ⟨?_, ih h.2⟩
      rw [mem_keys_insertMember]
      rintro (rfl | hm)
      · exact hk rfl
      · exact h.1 hm

end Json

end TreeTypes
