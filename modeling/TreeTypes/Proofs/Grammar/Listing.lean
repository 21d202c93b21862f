import TreeTypes.Proofs.Source.TypedFields

/-!
# Listed variants

A listing shows a variant as its name, an arrow and its fields, each as a name, a colon and a type.
Types may hold commas and colons themselves, also at their ends. They hold no blanks, however, if
the variant was read from an entry, and so the listing can be read back: the first blank ends the
name, and `labelledList_inj` separates the fields.
-/

namespace TreeTypes.Variant

open Text Source

variable {entry other : String} {variant listed : Variant}

/-- The names of the fields with their types. -/
def labels (variant : Variant) : List (String × String) :=
  variant.fields.map fun field => (field.name, field.type)

/-- What a listing shows behind the arrow. -/
def displayedFields (variant : Variant) : List Char :=
  if variant.labels.isEmpty then [] else ' ' :: (labelledList variant.labels).toList

theorem labels_inj (hname : variant.name = listed.name) (hlabels : variant.labels = listed.labels) :
    variant = listed := by
  obtain ⟨name, fields⟩ := variant
  obtain ⟨name', fields'⟩ := listed
  have hfield : Function.Injective fun field : Field => (field.name, field.type) := by
    rintro ⟨name, type⟩ ⟨name', type'⟩ heq
    simpa using heq
  simp only [mk.injEq]
  exact ⟨hname, List.map_injective_iff.mpr hfield hlabels⟩

theorem labelledList_labels (variant : Variant) :
    labelledList variant.labels = String.intercalate ", " (variant.fields.map Field.display) := by
  rw [labelledList, labels, List.map_map]
  rfl

theorem toList_display (variant : Variant) :
    variant.display.toList =
      variant.name.toList ++ ' ' :: '-' :: '>' :: variant.displayedFields := by
  rw [displayedFields, labelledList_labels]
  obtain ⟨name, fields⟩ := variant
  cases fields <;> simp [display, labels]

theorem Spells.labels_text {cs : List Char} (h : Spells cs variant) :
    ∀ pair ∈ variant.labels, LabelText pair := by
  have hnames := h.fields_spelled.1
  have htypes := h.types_solid
  refine List.forall_mem_map.mpr fun field hfield => ⟨?_, .word (htypes field hfield)⟩
  exact (hnames field hfield).not_mem (by decide)

theorem displayedFields_inj (h : ∀ pair ∈ variant.labels, LabelText pair)
    (h' : ∀ pair ∈ listed.labels, LabelText pair)
    (heq : variant.displayedFields = listed.displayedFields) : variant.labels = listed.labels := by
  unfold displayedFields at heq
  split at heq
  case isTrue hnone =>
    split at heq
    case isTrue hnone' => rw [List.isEmpty_iff.mp hnone, List.isEmpty_iff.mp hnone']
    case isFalse => cases heq
  case isFalse =>
    split at heq
    case isTrue => cases heq
    case isFalse => exact labelledList_inj h h' (String.toList_inj.mp (List.cons.inj heq).2)

/-- Two variants that were read from entries are the same when they are listed alike. -/
theorem display_faithful (h : parse entry = .ok variant) (h' : parse other = .ok listed)
    (heq : variant.display = listed.display) : variant = listed := by
  have hspelled := parse_eq_ok_iff.mp h
  have hspelled' := parse_eq_ok_iff.mp h'
  have hblank : Identifier.isLater ' ' = false := by decide
  have htext := congrArg String.toList heq
  rw [toList_display, toList_display] at htext
  obtain ⟨hname, hbehind⟩ := cut_inj (hspelled.name_spelled.1.not_mem hblank)
    (hspelled'.name_spelled.1.not_mem hblank) htext
  have hfields : variant.displayedFields = listed.displayedFields := by simpa using hbehind
  exact labels_inj (String.toList_inj.mp hname)
    (displayedFields_inj hspelled.labels_text hspelled'.labels_text hfields)

/-- Its types end in the signs that separate fields in a listing. -/
def callback : Variant := ⟨"Call", [⟨"x", "a,"⟩, ⟨"y", "b,>c:"⟩]⟩

theorem callback_faithful :
    ∃ listed, parse "Call : a- x, b->c: y" = .ok callback ∧
      parse "Call:a-\tx ,b->c:  y" = .ok listed ∧
      callback.display = "Call -> x: a,, y: b,>c:" ∧
      listed.display = "Call -> x: a,, y: b,>c:" ∧ callback = listed := by
  have hspaced : parse "Call : a- x, b->c: y" = .ok callback := by decide +kernel
  have htight : parse "Call:a-\tx ,b->c:  y" = .ok callback := by decide +kernel
  have hdisplay : callback.display = "Call -> x: a,, y: b,>c:" := by decide +kernel
  exact ⟨callback, hspaced, htight, hdisplay, hdisplay, display_faithful hspaced htight rfl⟩

end TreeTypes.Variant
