import Mathlib.Data.List.Forall2

/-!
# Reading in order

The fields of a variant and the variants of a family are read alike: item by item, and what an item
gives must not clash with the results before it. `readInOrder` is this loop with the reading of one
item and the search for a clash as its parameters. It succeeds when every item can be read on its
own and the results fit pairwise, and else it fails at the first item that cannot be read or that
clashes.
-/

namespace TreeTypes

variable {α β ε : Type}

/-- Read one item and look for a clash with the results before it. -/
def readStep (read : α → Except ε β) (clash? : List β → α → β → Option ε) (earlier : List β)
    (item : α) : Except ε β := do
  let result ← read item
  match clash? earlier item result with
  | some failure => throw failure
  | none => return result

/-- Read items one after the other. `earlier` holds the results before them. -/
def readInOrder (read : α → Except ε β) (clash? : List β → α → β → Option ε) (earlier : List β) :
    List α → Except ε (List β)
  | [] => .ok []
  | item :: rest => do
    let result ← readStep read clash? earlier item
    let results ← readInOrder read clash? (earlier ++ [result]) rest
    return result :: results

/-- A result clashes when it does not fit to some result before it. -/
def Compares (clash? : List β → α → β → Option ε) (Fits : β → β → Prop) : Prop :=
  ∀ earlier item result, clash? earlier item result = none ↔ ∀ first ∈ earlier, Fits first result

variable {read : α → Except ε β} {clash? : List β → α → β → Option ε} {Fits : β → β → Prop}
variable {earlier results : List β} {item : α} {items rest : List α} {result : β} {failure : ε}

theorem readStep_eq_ok_iff : readStep read clash? earlier item = .ok result ↔
    read item = .ok result ∧ clash? earlier item result = none := by
  unfold readStep
  cases read item with
  | error failure => simp [bind, Except.bind]
  | ok found =>
    simp only [bind, Except.bind]
    split
    case h_1 failure hclash =>
      refine iff_of_false (by rintro ⟨⟩) ?_
      rintro ⟨hfound, hnone⟩
      obtain rfl := Except.ok.inj hfound
      simp [hclash] at hnone
    case h_2 hnone =>
      constructor
      · intro hresult
        obtain rfl := Except.ok.inj hresult
        exact ⟨rfl, hnone⟩
      · rintro ⟨hfound, -⟩
        exact hfound

theorem readStep_eq_error_iff : readStep read clash? earlier item = .error failure ↔
    read item = .error failure ∨
      ∃ result, read item = .ok result ∧ clash? earlier item result = some failure := by
  unfold readStep
  cases read item with
  | error found => simp [bind, Except.bind]
  | ok found =>
    simp only [bind, Except.bind, Except.ok.injEq, reduceCtorEq, false_or, exists_eq_left']
    split
    case h_1 clash hclash =>
      rw [hclash, Option.some.injEq]
      exact ⟨Except.error.inj, congrArg Except.error⟩
    case h_2 hnone =>
      rw [hnone]
      exact iff_of_false (by rintro ⟨⟩) (by rintro ⟨⟩)

theorem readInOrder_cons_eq_ok_iff :
    readInOrder read clash? earlier (item :: rest) = .ok results ↔
      ∃ result others, readStep read clash? earlier item = .ok result ∧
        readInOrder read clash? (earlier ++ [result]) rest = .ok others ∧
          result :: others = results := by
  simp only [readInOrder]
  cases readStep read clash? earlier item with
  | error failure => simp [bind, Except.bind]
  | ok result =>
    cases hrest : readInOrder read clash? (earlier ++ [result]) rest <;>
      simp [hrest, bind, Except.bind, pure, Except.pure]

theorem readInOrder_cons_eq_error_iff :
    readInOrder read clash? earlier (item :: rest) = .error failure ↔
      readStep read clash? earlier item = .error failure ∨
        ∃ result, readStep read clash? earlier item = .ok result ∧
          readInOrder read clash? (earlier ++ [result]) rest = .error failure := by
  simp only [readInOrder]
  cases readStep read clash? earlier item with
  | error failure => simp [bind, Except.bind]
  | ok result =>
    cases hrest : readInOrder read clash? (earlier ++ [result]) rest <;>
      simp [hrest, bind, Except.bind, pure, Except.pure]

/-- Reading succeeds when every item can be read alone and every result fits to those before it. -/
theorem readInOrder_eq_ok_iff (hclash : Compares clash? Fits) :
    readInOrder read clash? earlier items = .ok results ↔
      List.Forall₂ (fun item result => read item = .ok result) items results ∧
        results.Pairwise Fits ∧ ∀ first ∈ earlier, ∀ result ∈ results, Fits first result := by
  induction items generalizing earlier results with
  | nil =>
    cases results <;> simp [readInOrder]
  | cons item rest ih =>
    rw [readInOrder_cons_eq_ok_iff]
    constructor
    · rintro ⟨result, others, hresult, hothers, rfl⟩
      obtain ⟨hread, hnone⟩ := readStep_eq_ok_iff.mp hresult
      have hfits := (hclash earlier item result).mp hnone
      obtain ⟨hall, hpairwise, hearlier⟩ := ih.mp hothers
      simp only [List.mem_append, List.mem_singleton, or_imp, forall_and, forall_eq] at hearlier
      refine ⟨.cons hread hall, List.pairwise_cons.mpr ⟨hearlier.2, hpairwise⟩, ?_⟩
      intro first hfirst
      exact List.forall_mem_cons.mpr ⟨hfits first hfirst, hearlier.1 first hfirst⟩
    · rintro ⟨hall, hpairwise, hearlier⟩
      obtain ⟨result, others, hread, hrest, rfl⟩ := List.forall₂_cons_left_iff.mp hall
      obtain ⟨hresult, hothers⟩ := List.pairwise_cons.mp hpairwise
      refine ⟨result, others, ?_, ?_, rfl⟩
      · refine readStep_eq_ok_iff.mpr ⟨hread, (hclash earlier item result).mpr ?_⟩
        exact fun first hfirst => hearlier first hfirst result List.mem_cons_self
      · refine ih.mpr ⟨hrest, hothers, fun first hfirst other hother => ?_⟩
        rcases List.mem_append.mp hfirst with hfirst | hfirst
        · exact hearlier first hfirst other (List.mem_cons_of_mem _ hother)
        · obtain rfl := List.mem_singleton.mp hfirst
          exact hresult other hother

/-- Reading fails at the first item that cannot be read or clashes. -/
theorem readInOrder_eq_error_iff : readInOrder read clash? earlier items = .error failure ↔
    ∃ before item behind results, items = before ++ item :: behind ∧
      readInOrder read clash? earlier before = .ok results ∧
        readStep read clash? (earlier ++ results) item = .error failure := by
  induction items generalizing earlier with
  | nil => simp [readInOrder]
  | cons item rest ih =>
    rw [readInOrder_cons_eq_error_iff]
    constructor
    · rintro (hfailure | ⟨result, hresult, hfailure⟩)
      · exact ⟨[], item, rest, [], rfl, rfl, by simpa using hfailure⟩
      · obtain ⟨before, last, behind, results, rfl, hbefore, hlast⟩ := ih.mp hfailure
        refine ⟨item :: before, last, behind, result :: results, rfl, ?_, by simpa using hlast⟩
        exact readInOrder_cons_eq_ok_iff.mpr ⟨result, results, hresult, hbefore, rfl⟩
    · rintro ⟨before, last, behind, results, hitems, hbefore, hlast⟩
      cases before with
      | nil =>
        obtain ⟨rfl, rfl⟩ := List.cons.inj hitems
        obtain rfl := Except.ok.inj hbefore
        exact .inl (by simpa using hlast)
      | cons first before =>
        obtain ⟨rfl, rfl⟩ := List.cons.inj hitems
        obtain ⟨result, others, hresult, hothers, rfl⟩ := readInOrder_cons_eq_ok_iff.mp hbefore
        refine .inr ⟨result, hresult, ih.mpr ⟨before, last, behind, others, rfl, hothers, ?_⟩⟩
        simpa using hlast

theorem map_eq_map_of_forall₂ {γ : Type} {f : α → γ} {g : β → γ}
    (h : List.Forall₂ (fun item result => f item = g result) items results) :
    items.map f = results.map g := by
  rw [← List.forall₂_eq_eq_eq, List.forall₂_map_left_iff, List.forall₂_map_right_iff]
  exact h

theorem map_eq_map_of_map_eq {γ δ : Type} {f : α → γ} {g : α → δ} {others : List α}
    (hf : ∀ {item other : α}, g item = g other → f item = f other)
    (h : items.map g = others.map g) : items.map f = others.map f := by
  rw [← List.forall₂_eq_eq_eq, List.forall₂_map_left_iff, List.forall₂_map_right_iff] at h
  exact map_eq_map_of_forall₂ (h.imp fun _ _ hitem => hf hitem)

theorem forall₂_congr_left {R S : α → β → Prop}
    (h : ∀ item ∈ items, ∀ result, R item result ↔ S item result) :
    List.Forall₂ R items results ↔ List.Forall₂ S items results := by
  induction items generalizing results with
  | nil => simp only [List.forall₂_nil_left_iff]
  | cons item rest ih =>
    obtain ⟨hitem, hrest⟩ := List.forall_mem_cons.mp h
    simp only [List.forall₂_cons_left_iff, hitem, ih hrest]

theorem exists_of_forall₂_of_mem {R : α → β → Prop} (h : List.Forall₂ R items results)
    (hitem : item ∈ items) : ∃ result, R item result := by
  induction h with
  | nil => cases hitem
  | cons hfirst hrest ih =>
    rcases List.mem_cons.mp hitem with rfl | hitem
    · exact ⟨_, hfirst⟩
    · exact ih hitem

/-- A traversal succeeds when it does so on every item. -/
theorem mapM_eq_ok_iff : items.mapM read = .ok results ↔
    List.Forall₂ (fun item result => read item = .ok result) items results := by
  induction items generalizing results with
  | nil => cases results <;> simp [pure, Except.pure]
  | cons item rest ih =>
    rw [List.mapM_cons, List.forall₂_cons_left_iff]
    cases hread : read item with
    | error failure => simp [bind, Except.bind]
    | ok result =>
      cases hrest : rest.mapM read with
      | error failure => simp [hrest, bind, Except.bind, ← ih]
      | ok others => simp [hrest, bind, Except.bind, pure, Except.pure, ← ih, eq_comm]

theorem exists_forall₂_iff {R : α → β → Prop} :
    (∃ results, List.Forall₂ R items results) ↔ ∀ item ∈ items, ∃ result, R item result := by
  constructor
  · rintro ⟨results, h⟩ item hitem
    exact exists_of_forall₂_of_mem h hitem
  · intro h
    induction items with
    | nil => exact ⟨[], .nil⟩
    | cons item rest ih =>
      obtain ⟨⟨result, hresult⟩, hrest⟩ := List.forall_mem_cons.mp h
      obtain ⟨results, hresults⟩ := ih hrest
      exact ⟨result :: results, .cons hresult hresults⟩

theorem getElem?_of_forall₂ {R : α → β → Prop} {before behind : List α}
    (h : List.Forall₂ R (before ++ item :: behind) results) :
    ∃ result, R item result ∧ results[before.length]? = some result := by
  induction before generalizing results with
  | nil =>
    obtain ⟨result, others, hresult, -, rfl⟩ := List.forall₂_cons_left_iff.mp h
    exact ⟨result, hresult, rfl⟩
  | cons first before ih =>
    obtain ⟨_, others, -, hothers, rfl⟩ := List.forall₂_cons_left_iff.mp h
    exact ih hothers

/-- A traversal is a reading in order in which nothing clashes. -/
theorem mapM_eq_readInOrder (earlier : List β) (items : List α) :
    items.mapM read = readInOrder read (fun _ _ _ => none) earlier items := by
  induction items generalizing earlier with
  | nil => rfl
  | cons item rest ih =>
    rw [List.mapM_cons, readInOrder, readStep]
    cases read item with
    | error failure => rfl
    | ok result =>
      rw [ih (earlier ++ [result])]
      rfl

/-- A traversal fails at the first item on which it does. -/
theorem mapM_eq_error_iff : items.mapM read = .error failure ↔
    ∃ before item behind, items = before ++ item :: behind ∧
      (∀ other ∈ before, ∃ result, read other = .ok result) ∧ read item = .error failure := by
  rw [mapM_eq_readInOrder [], readInOrder_eq_error_iff]
  simp only [readStep_eq_error_iff, reduceCtorEq, and_false, exists_false, or_false,
    ← mapM_eq_readInOrder, mapM_eq_ok_iff, exists_and_left, exists_and_right, exists_forall₂_iff]

/-- What is done to every result may be done after the traversal. -/
theorem mapM_map {γ : Type} (f : β → γ) :
    items.mapM (fun item => (read item).map f) = (items.mapM read).map (List.map f) := by
  induction items with
  | nil => rfl
  | cons item rest ih =>
    rw [List.mapM_cons, List.mapM_cons, ih]
    cases read item with
    | error failure => rfl
    | ok result => cases rest.mapM read <;> rfl

end TreeTypes
