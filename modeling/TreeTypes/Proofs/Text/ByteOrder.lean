import Mathlib.Data.List.Lex
import Mathlib.Data.String.Basic

/-!
# The order of bytes

Texts are compared character by character, and their bytes are in the same order. A character of a
longer encoding has a greater first byte. Two characters with encodings of one length are compared
by the first byte and then by the bytes behind it, which hold the digits of the code in base 64.
-/

namespace TreeTypes.Text

/-- The bytes of a text in UTF-8. -/
def bytes (text : String) : List UInt8 :=
  text.toUTF8.data.toList

variable {c d : Char} {code other : Nat}

/-- The number of bytes behind the first one of a character. -/
def bytesBehind (code : Nat) : Nat :=
  if code ≤ 0x7F then 0 else if code ≤ 0x7FF then 1 else if code ≤ 0xFFFF then 2 else 3

/-- The smallest first byte of a character with so many bytes behind it. -/
def leastLead : Nat → Nat
  | 0 => 0
  | 1 => 0xC0
  | 2 => 0xE0
  | _ => 0xF0

/-- The first byte of a character. -/
def lead (code : Nat) : Nat :=
  code / 64 ^ bytesBehind code + leastLead (bytesBehind code)

/-- The last digits of a code in base 64, each in a byte of its own. -/
def digitBytes (code : Nat) : Nat → List UInt8
  | 0 => []
  | count + 1 => UInt8.ofNat (code / 64 ^ count % 64 + 0x80) :: digitBytes code count

theorem code_lt (c : Char) : c.val.toNat < 0x110000 := by
  have hvalid := c.valid
  simp only [UInt32.isValidChar, Nat.isValidChar] at hvalid
  omega

theorem utf8EncodeChar_eq (c : Char) : String.utf8EncodeChar c =
    UInt8.ofNat (lead c.val.toNat) :: digitBytes c.val.toNat (bytesBehind c.val.toNat) := by
  have hcode := code_lt c
  unfold String.utf8EncodeChar lead bytesBehind
  generalize c.val.toNat = code at hcode
  -- The digits in front of the last ones need not be cut off, since the code is below the bound.
  split_ifs with hone htwo hthree
  · simp [digitBytes, leastLead, hone]
  · have hfirst : code / 64 % 32 = code / 64 := by omega
    simp [digitBytes, leastLead, hone, htwo, hfirst]
  · have hfirst : code / 4096 % 16 = code / 4096 := by omega
    simp [digitBytes, leastLead, hone, htwo, hthree, hfirst]
  · have hfirst : code / 262144 % 8 = code / 262144 := by omega
    simp [digitBytes, leastLead, hone, htwo, hthree, hfirst]

theorem lead_lt (h : code < 0x110000) : lead code < 256 := by
  unfold lead bytesBehind
  split_ifs <;> simp only [leastLead] <;> omega

theorem bytesBehind_mono (h : code ≤ other) : bytesBehind code ≤ bytesBehind other := by
  unfold bytesBehind
  split_ifs <;> omega

/-- A character of a longer encoding has a greater first byte. -/
theorem lead_lt_of_bytesBehind_lt (hcode : code < 0x110000)
    (h : bytesBehind code < bytesBehind other) : lead code < lead other := by
  unfold lead
  unfold bytesBehind at h ⊢
  split_ifs at h ⊢ <;> simp only [leastLead] <;> omega

theorem cons_lt_cons_of_lt (h : code < other) (hother : other < 256) (rest rest' : List UInt8) :
    UInt8.ofNat code :: rest < UInt8.ofNat other :: rest' := by
  rw [List.cons_lt_cons_iff, UInt8.lt_iff_toNat_lt, UInt8.toNat_ofNat', UInt8.toNat_ofNat']
  left
  omega

theorem digitBytes_append_lt {count : Nat} (h : code % 64 ^ count < other % 64 ^ count)
    (rest rest' : List UInt8) :
    digitBytes code count ++ rest < digitBytes other count ++ rest' := by
  induction count with
  | zero => simp [Nat.mod_one] at h
  | succ count ih =>
    rw [Nat.mod_pow_succ, Nat.mod_pow_succ] at h
    have hbound : code % 64 ^ count < 64 ^ count := Nat.mod_lt _ (Nat.pow_pos (by decide))
    have hbound' : other % 64 ^ count < 64 ^ count := Nat.mod_lt _ (Nat.pow_pos (by decide))
    rw [digitBytes, digitBytes, List.cons_append, List.cons_append]
    rcases lt_trichotomy (code / 64 ^ count % 64) (other / 64 ^ count % 64) with hlt | heq | hgt
    · exact cons_lt_cons_of_lt (by omega) (by omega) _ _
    · rw [heq] at h ⊢
      exact List.cons_lt_cons_iff.mpr (.inr ⟨rfl, ih (by omega)⟩)
    · have hdigits := Nat.mul_le_mul_left (64 ^ count) (Nat.succ_le_of_lt hgt)
      rw [Nat.mul_succ] at hdigits
      omega

theorem utf8EncodeChar_append_lt (h : c < d) (rest rest' : List UInt8) :
    String.utf8EncodeChar c ++ rest < String.utf8EncodeChar d ++ rest' := by
  have hcode : c.val.toNat < d.val.toNat := h
  have hlead := lead_lt (code_lt d)
  rw [utf8EncodeChar_eq, utf8EncodeChar_eq, List.cons_append, List.cons_append]
  rcases (bytesBehind_mono hcode.le).lt_or_eq with hlonger | hsame
  · exact cons_lt_cons_of_lt (lead_lt_of_bytesBehind_lt (code_lt c) hlonger) hlead _ _
  · have hquotient := Nat.div_le_div_right (c := 64 ^ bytesBehind d.val.toNat) hcode.le
    rcases hquotient.lt_or_eq with hlt | heq
    · refine cons_lt_cons_of_lt ?_ hlead _ _
      rw [lead, lead, hsame]
      omega
    · have hfirst : lead c.val.toNat = lead d.val.toNat := by rw [lead, lead, hsame, heq]
      rw [hfirst, hsame]
      refine List.cons_lt_cons_iff.mpr (.inr ⟨rfl, digitBytes_append_lt ?_ _ _⟩)
      have hc := Nat.div_add_mod c.val.toNat (64 ^ bytesBehind d.val.toNat)
      have hd := Nat.div_add_mod d.val.toNat (64 ^ bytesBehind d.val.toNat)
      rw [heq] at hc
      omega

theorem bytes_eq_flatMap (text : String) :
    bytes text = text.toList.flatMap String.utf8EncodeChar := by
  have htext : text.toUTF8 = text.toList.utf8Encode := by
    rw [String.toUTF8_eq_toByteArray, ← String.toByteArray_ofList, String.ofList_toList]
  rw [bytes, htext, List.utf8Encode, List.toList_data_toByteArray]

theorem flatMap_utf8EncodeChar_lt {cs ds : List Char} (h : cs < ds) :
    cs.flatMap String.utf8EncodeChar < ds.flatMap String.utf8EncodeChar := by
  induction ds generalizing cs with
  | nil => exact absurd h (List.not_lt_nil cs)
  | cons d ds ih =>
    cases cs with
    | nil =>
      rw [List.flatMap_nil, List.flatMap_cons, utf8EncodeChar_eq, List.cons_append]
      exact List.nil_lt_cons _ _
    | cons c cs =>
      rw [List.flatMap_cons, List.flatMap_cons]
      rcases List.cons_lt_cons_iff.mp h with hlt | ⟨rfl, hrest⟩
      · exact utf8EncodeChar_append_lt hlt _ _
      · exact List.append_left_lt (ih hrest)

/-- Texts in ascending order have their bytes in ascending order. -/
theorem bytes_lt_bytes {text other : String} (h : text < other) : bytes text < bytes other := by
  rw [bytes_eq_flatMap, bytes_eq_flatMap]
  exact flatMap_utf8EncodeChar_lt h

end TreeTypes.Text
