import TreeTypes.Proofs.Json.Spelling

/-!
# Reading spelled texts

A reader takes what spells a value from the front of a text and leaves what stands behind it. This
is shown for the digits of an escape, for characters and strings, and for the items of a container
when each of them is read so.
-/

namespace TreeTypes.Json

variable {cs rest gap body digits spelled : List Char} {c : Char} {code fuel : Nat} {text : String}

theorem isGap_iff : isGap c = true ↔ c = ' ' ∨ c = '\n' ∨ c = '\t' ∨ c = '\r' := by
  simp [isGap, or_assoc]

theorem Gap.skipGap_append (h : Gap gap) (cs : List Char) : skipGap (gap ++ cs) = skipGap cs :=
  List.dropWhile_append_of_pos fun c hc => isGap_iff.mpr (h c hc)

theorem skipGap_cons (h : isGap c = false) : skipGap (c :: cs) = c :: cs :=
  List.dropWhile_cons_of_neg (by simp [h])

theorem hexValue?_digitChar : ∀ value < 16, hexValue? (Nat.digitChar value) = some value ∧
    hexValue? (Nat.digitChar value).toUpper = some value := by
  decide

theorem SpellsDigit.hexValue? {value : Nat} (h : SpellsDigit value c) :
    hexValue? c = some value := by
  obtain ⟨hvalue, rfl | rfl⟩ := h
  · exact (hexValue?_digitChar value hvalue).1
  · exact (hexValue?_digitChar value hvalue).2

theorem SpellsCode.hexEscape (h : SpellsCode code digits) (rest : List Char) :
    hexEscape (digits ++ rest) = .ok (code, rest) := by
  obtain ⟨ha, hb, hc, hd⟩ := h
  simp only [Json.hexEscape, List.cons_append, List.nil_append, ha.hexValue?, hb.hexValue?,
    hc.hexValue?, hd.hexValue?]

/-- No character has the number of a surrogate. -/
theorem not_surrogate (c : Char) : c.toNat < 0xD800 ∨ 0xDFFF < c.toNat ∧ c.toNat < 0x110000 :=
  c.valid

theorem SpellsCode.codeEscape (h : SpellsCode c.toNat digits) (rest : List Char) :
    codeEscape (digits ++ rest) = .ok (c, rest) := by
  have hcode := not_surrogate c
  have htrailing : ¬ (0xDC00 ≤ c.toNat ∧ c.toNat ≤ 0xDFFF) := by omega
  have hleading : c.toNat < 0xD800 ∨ 0xDBFF < c.toNat := by omega
  simp only [Json.codeEscape, h.hexEscape, bind, Except.bind, if_neg htrailing, if_pos hleading,
    Char.ofNat_toNat]
  rfl

theorem codeEscape_pair {leading trailing : List Char} (hcode : 0x10000 ≤ c.toNat)
    (hleading : SpellsCode (surrogates c.toNat).1 leading)
    (htrailing : SpellsCode (surrogates c.toNat).2 trailing) (rest : List Char) :
    codeEscape (leading ++ '\\' :: 'u' :: (trailing ++ rest)) = .ok (c, rest) := by
  have hlimit := not_surrogate c
  simp only [surrogates] at hleading htrailing
  have hback : (0xD800 + (c.toNat - 0x10000) / 0x400 - 0xD800) * 0x400 +
      (0xDC00 + (c.toNat - 0x10000) % 0x400 - 0xDC00) + 0x10000 = c.toNat := by omega
  have hfirst : ¬ (0xDC00 ≤ 0xD800 + (c.toNat - 0x10000) / 0x400 ∧
      0xD800 + (c.toNat - 0x10000) / 0x400 ≤ 0xDFFF) := by omega
  have hpaired : ¬ (0xD800 + (c.toNat - 0x10000) / 0x400 < 0xD800 ∨
      0xDBFF < 0xD800 + (c.toNat - 0x10000) / 0x400) := by omega
  have hsecond : ¬ (0xDC00 + (c.toNat - 0x10000) % 0x400 < 0xDC00 ∨
      0xDFFF < 0xDC00 + (c.toNat - 0x10000) % 0x400) := by omega
  simp only [Json.codeEscape, hleading.hexEscape, htrailing.hexEscape, bind, Except.bind,
    if_neg hfirst, if_neg hpaired, if_neg hsecond, hback, Char.ofNat_toNat]
  rfl

theorem escapedChar_short {letter : Char} (h : (c, letter) ∈ shortEscapes) (rest : List Char) :
    escapedChar (letter :: rest) = .ok (c, rest) := by
  simp only [shortEscapes, List.mem_cons, Prod.mk.injEq, List.not_mem_nil, or_false] at h
  rcases h with ⟨rfl, rfl⟩ | ⟨rfl, rfl⟩ | ⟨rfl, rfl⟩ | ⟨rfl, rfl⟩ | ⟨rfl, rfl⟩ | ⟨rfl, rfl⟩ |
    ⟨rfl, rfl⟩ | ⟨rfl, rfl⟩ <;> rfl

theorem escapedChar_code (digits : List Char) : escapedChar ('u' :: digits) = codeEscape digits :=
  rfl

theorem stringChars_plain (hquote : c ≠ '"') (hescape : c ≠ '\\') (hcontrol : 0x20 ≤ c.toNat)
    (fuel : Nat) (rest : List Char) : stringChars (fuel + 1) (c :: rest) =
      (stringChars fuel rest).map fun (decoded, rest) => (c :: decoded, rest) := by
  have hprintable : ¬ c.toNat < 0x20 := by omega
  simp only [stringChars, hquote, hescape, hprintable, if_false]
  cases stringChars fuel rest <;> rfl

theorem stringChars_escape {escape : List Char}
    (h : escapedChar (escape ++ rest) = .ok (c, rest)) (fuel : Nat) :
    stringChars (fuel + 1) ('\\' :: escape ++ rest) =
      (stringChars fuel rest).map fun (decoded, rest) => (c :: decoded, rest) := by
  have hquote : '\\' ≠ '"' := by decide
  simp only [List.cons_append, stringChars, hquote, if_false, if_true, h, bind, Except.bind]
  cases stringChars fuel rest <;> rfl

/-- A character that is read comes in front of what is read behind it. -/
theorem SpellsChar.stringChars_append (h : SpellsChar c spelled) (fuel : Nat) (rest : List Char) :
    stringChars (fuel + 1) (spelled ++ rest) =
      (stringChars fuel rest).map fun (decoded, rest) => (c :: decoded, rest) := by
  cases h with
  | plain hquote hescape hcontrol => exact stringChars_plain hquote hescape hcontrol fuel rest
  | short hletter => exact stringChars_escape (escapedChar_short hletter rest) fuel
  | code hcode =>
    refine stringChars_escape ?_ fuel
    rw [List.cons_append, escapedChar_code, hcode.codeEscape]
  | pair hcode hleading htrailing =>
    refine stringChars_escape ?_ fuel
    simpa [escapedChar_code] using codeEscape_pair hcode hleading htrailing rest

theorem SpellsChars.stringChars (h : SpellsChars cs body) (hfuel : cs.length < fuel)
    (rest : List Char) : stringChars fuel (body ++ '"' :: rest) = .ok (cs, rest) := by
  induction h generalizing fuel with
  | nil =>
    obtain ⟨fuel, rfl⟩ := Nat.exists_eq_add_of_lt hfuel
    rfl
  | cons hchar hchars ih =>
    cases fuel with
    | zero => exact absurd hfuel (Nat.not_lt_zero _)
    | succ fuel =>
      rw [List.append_assoc, hchar.stringChars_append, ih (Nat.lt_of_succ_lt_succ hfuel)]
      rfl

theorem SpellsChar.ne_nil (h : SpellsChar c spelled) : spelled ≠ [] := by
  cases h <;> simp

theorem SpellsChars.length_le (h : SpellsChars cs body) : cs.length ≤ body.length := by
  induction h with
  | nil => exact Nat.le_refl 0
  | cons hchar _ ih =>
    have hlength := List.length_pos_iff.mpr hchar.ne_nil
    simp only [List.length_cons, List.length_append]
    omega

theorem SpellsChars.readString (h : SpellsChars text.toList body) (rest : List Char) :
    readString (body ++ '"' :: rest) = .ok (text, rest) := by
  have hfuel : text.toList.length < (body ++ '"' :: rest).length + 1 := by
    have hlength := h.length_le
    simp only [List.length_append]
    omega
  rw [Json.readString, h.stringChars hfuel rest]
  simp [Except.map]

section

variable {α β : Type} {Spells : α → List Char → Prop} {meaning : α → β} {items : List α}
variable {close : Char} {item : Reader β} {all : Reader (List β)} {later : Nat → Reader (List β)}

/-- Items start with a quote, and behind it a reader takes what spells an item. -/
def ReadsQuoted (item : Reader β) (meaning : α → β) (Spells : α → List Char → Prop) : Prop :=
  ∀ ⦃value spelled⦄, Spells value spelled → ∃ tail, spelled = '"' :: tail ∧
    ∀ rest, item (tail ++ rest) = .ok (meaning value, rest)

/-- How the items of a container are read up to the bracket that closes it: the first one at once
and each later one behind a comma. -/
structure Loops (close : Char) (item : Reader β) (all : Reader (List β))
    (later : Nat → Reader (List β)) : Prop where
  none {gap : List Char} : Gap gap → ∀ rest, all (gap ++ close :: rest) = .ok ([], rest)
  first {gap : List Char} : Gap gap → ∀ tail, all (gap ++ '"' :: tail) = do
    let (first, rest) ← item tail
    let (others, rest) ← later (rest.length + 1) rest
    return (first :: others, rest)
  last {gap : List Char} : Gap gap → ∀ fuel rest,
    later (fuel + 1) (gap ++ close :: rest) = .ok ([], rest)
  next {before behind : List Char} : Gap before → Gap behind → ∀ fuel tail,
    later (fuel + 1) (before ++ ',' :: (behind ++ '"' :: tail)) = do
      let (first, rest) ← item tail
      let (others, rest) ← later fuel rest
      return (first :: others, rest)

theorem SpellsLater.read (hloops : Loops close item all later)
    (hitem : ReadsQuoted item meaning Spells) (h : SpellsLater Spells items spelled)
    (hfuel : items.length < fuel) (rest : List Char) :
    later fuel (spelled ++ close :: rest) = .ok (items.map meaning, rest) := by
  induction h generalizing fuel with
  | nil hgap =>
    cases fuel with
    | zero => exact absurd hfuel (Nat.not_lt_zero _)
    | succ fuel => exact hloops.last hgap fuel rest
  | cons hbefore hbehind hspelled _ ih =>
    cases fuel with
    | zero => exact absurd hfuel (Nat.not_lt_zero _)
    | succ fuel =>
      obtain ⟨tail, rfl, hread⟩ := hitem hspelled
      have hitems := ih (Nat.lt_of_succ_lt_succ hfuel)
      simp only [List.append_assoc, List.cons_append]
      rw [hloops.next hbefore hbehind, hread]
      simp only [bind, Except.bind, hitems]
      rfl

theorem SpellsLater.length_le (h : SpellsLater Spells items spelled) :
    items.length ≤ spelled.length := by
  induction h with
  | nil => exact Nat.zero_le _
  | cons _ _ _ _ ih =>
    simp only [List.length_cons, List.length_append]
    omega

theorem SpellsItems.read (hloops : Loops close item all later)
    (hitem : ReadsQuoted item meaning Spells) (h : SpellsItems Spells items spelled)
    (rest : List Char) : all (spelled ++ close :: rest) = .ok (items.map meaning, rest) := by
  cases h with
  | nil hgap => exact hloops.none hgap rest
  | @cons before spelled others value items hbefore hspelled hothers =>
    obtain ⟨tail, rfl, hread⟩ := hitem hspelled
    -- The bound on the later items is the number of characters behind the first one.
    have hfuel : items.length < (others ++ close :: rest).length + 1 := by
      have hlength := hothers.length_le
      simp only [List.length_append]
      omega
    have hitems := hothers.read hloops hitem hfuel rest
    simp only [List.append_assoc, List.cons_append]
    rw [hloops.first hbefore, hread]
    simp only [bind, Except.bind, hitems]
    rfl

end

section

variable {α β : Type} {Spells : α → List Char → Prop} {element : Reader β} {meaning : α → β}

/-- A reader takes what spells a value, behind a gap, and gives its meaning. -/
def Reads (element : Reader β) (meaning : α → β) (Spells : α → List Char → Prop) : Prop :=
  ∀ ⦃value gap spelled⦄, Gap gap → Spells value spelled → ∀ rest,
    element (gap ++ spelled ++ rest) = .ok (meaning value, rest)

theorem isGap_comma : isGap ',' = false := by decide

theorem isGap_quote : isGap '"' = false := by decide

theorem isGap_colon : isGap ':' = false := by decide

theorem loops_elements (element : Reader β) :
    Loops ']' (fun tail => element ('"' :: tail)) (readElements element)
      (laterElements element) where
  none hgap rest := by
    rw [readElements, hgap.skipGap_append]
    rfl
  first hgap tail := by
    rw [readElements]
    simp only [hgap.skipGap_append, skipGap_cons isGap_quote]
    rfl
  last hgap fuel rest := by
    rw [laterElements, hgap.skipGap_append]
    rfl
  next hbefore hbehind fuel tail := by
    rw [laterElements]
    simp only [hbefore.skipGap_append, skipGap_cons isGap_comma, hbehind.skipGap_append,
      skipGap_cons isGap_quote]
    rfl

theorem loops_members (element : Reader β) :
    Loops '\x7d' (readMember element) (readMembers element) (laterMembers element) where
  none hgap rest := by
    rw [readMembers, hgap.skipGap_append]
    rfl
  first hgap tail := by
    rw [readMembers]
    simp only [hgap.skipGap_append, skipGap_cons isGap_quote]
  last hgap fuel rest := by
    rw [laterMembers, hgap.skipGap_append]
    rfl
  next hbefore hbehind fuel tail := by
    rw [laterMembers]
    simp only [hbefore.skipGap_append, skipGap_cons isGap_comma, hbehind.skipGap_append,
      skipGap_cons isGap_quote]

/-- Strings are elements that start with a quote. -/
theorem readsQuoted_string {meaning : String → β} (hreads : Reads element meaning SpellsString) :
    ReadsQuoted (fun tail => element ('"' :: tail)) meaning SpellsString := by
  rintro text _ ⟨hbody⟩
  exact ⟨_, rfl, hreads .nil (.intro hbody)⟩

theorem readsQuoted_member (hreads : Reads element meaning Spells) :
    ReadsQuoted (readMember element) (fun member => (member.1, meaning member.2))
      (SpellsMember Spells) := by
  intro member spelled h
  cases h with
  | @intro key value _ before behind other hkey hbefore hbehind hvalue =>
    cases hkey with
    | @intro body hbody =>
      refine ⟨body ++ '"' :: (before ++ ':' :: (behind ++ other)), by simp, fun rest => ?_⟩
      have hread := hreads hbehind hvalue rest
      rw [List.append_assoc] at hread
      simp only [List.append_assoc, List.cons_append]
      simp only [readMember, hbody.readString, bind, Except.bind, hbefore.skipGap_append,
        skipGap_cons isGap_colon, hread]
      rfl

end

section

variable {α : Type} {Spells : α → List Char → Prop} {meaning : α → Json} {depth : Nat}

theorem readValue_gap (h : Gap gap) (cs : List Char) :
    readValue depth (gap ++ cs) = readValue depth cs := by
  rw [readValue, readValue, h.skipGap_append]

theorem readValue_string (depth : Nat) (cs : List Char) : readValue depth ('"' :: cs) =
    (readString cs).map fun (text, rest) => (.string text, rest) := by
  cases depth <;> rfl

theorem readValue_array (depth : Nat) (cs : List Char) : readValue (depth + 1) ('[' :: cs) =
    (readElements (readValue depth) cs).map fun (read, rest) => (.array read, rest) := by
  rfl

/-- The members of an object together with those kept before, of several with one key only the last
value. -/
def merged (kept members : List (String × Json)) : List (String × Json) :=
  members.foldl (fun kept (key, value) => insertMember key value kept) kept

theorem readValue_object (depth : Nat) (cs : List Char) : readValue (depth + 1) ('\x7b' :: cs) =
    (readMembers (readValue depth) cs).map
      fun (read, rest) => (.object (merged [] read), rest) := by
  rfl

theorem reads_string (depth : Nat) : Reads (readValue depth) .string SpellsString := by
  rintro text gap _ hgap ⟨hbody⟩ rest
  rw [List.append_assoc, readValue_gap hgap]
  simp only [List.cons_append, List.append_assoc, List.nil_append, readValue_string,
    hbody.readString]
  rfl

theorem reads_array
    (hquoted : ReadsQuoted (fun tail => readValue depth ('"' :: tail)) meaning Spells) :
    Reads (readValue (depth + 1)) (fun items => .array (items.map meaning))
      (SpellsArray Spells) := by
  rintro items gap _ hgap ⟨hbody⟩ rest
  rw [List.append_assoc, readValue_gap hgap]
  simp only [List.cons_append, List.append_assoc, List.nil_append, readValue_array,
    hbody.read (loops_elements _) hquoted]
  rfl

theorem reads_object (hreads : Reads (readValue depth) meaning Spells) :
    Reads (readValue (depth + 1)) (fun members => .object (merged [] (meanings meaning members)))
      (SpellsObject Spells) := by
  rintro members gap _ hgap ⟨hbody⟩ rest
  rw [List.append_assoc, readValue_gap hgap]
  simp only [List.cons_append, List.append_assoc, List.nil_append, readValue_object,
    hbody.read (loops_members _) (readsQuoted_member hreads)]
  rfl

end

end TreeTypes.Json
