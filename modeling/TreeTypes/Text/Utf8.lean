/-!
# Reading bytes that may not be UTF-8

`readable` shows any content as text. Bytes that belong to no character are replaced: each longest
run that starts a character but does not complete it becomes one replacement character.
-/

namespace TreeTypes.Text

/-- The character that stands for bytes that are no text. -/
def replacementChar : Char := '\uFFFD'

/-- What the first byte of a character announces: how many bytes follow, the bounds of the next one
and the bits that the first byte contributes. -/
def leadByte (b : Nat) : Option (Nat × Nat × Nat × Nat) :=
  if b < 0x80 then some (0, 0, 0, b)
  else if b < 0xC2 then none
  else if b < 0xE0 then some (1, 0x80, 0xBF, b - 0xC0)
  else if b = 0xE0 then some (2, 0xA0, 0xBF, 0)
  else if b = 0xED then some (2, 0x80, 0x9F, b - 0xE0)
  else if b < 0xF0 then some (2, 0x80, 0xBF, b - 0xE0)
  else if b = 0xF0 then some (3, 0x90, 0xBF, 0)
  else if b < 0xF4 then some (3, 0x80, 0xBF, b - 0xF0)
  else if b = 0xF4 then some (3, 0x80, 0x8F, b - 0xF0)
  else none

/-- Read the bytes that follow a first byte. The rest starts at the first byte that does not fit. -/
def tailBytes : (count low high value : Nat) → List UInt8 → Option Nat × List UInt8
  | 0, _, _, value, rest => (some value, rest)
  | _ + 1, _, _, _, [] => (none, [])
  | count + 1, low, high, value, b :: rest =>
    if low ≤ b.toNat ∧ b.toNat ≤ high then
      tailBytes count 0x80 0xBF (value * 64 + (b.toNat - 0x80)) rest
    else (none, b :: rest)

/-- The characters of the first `fuel` steps; each step reads at least one byte. -/
def readableChars : (fuel : Nat) → List UInt8 → List Char
  | 0, _ => []
  | _ + 1, [] => []
  | fuel + 1, b :: rest =>
    match leadByte b.toNat with
    | none => replacementChar :: readableChars fuel rest
    | some (count, low, high, value) =>
      match tailBytes count low high value rest with
      | (some code, rest) => Char.ofNat code :: readableChars fuel rest
      | (none, rest) => replacementChar :: readableChars fuel rest

/-- A content as text, with a replacement character for what is no UTF-8. -/
def readable (content : ByteArray) : String :=
  String.ofList (readableChars content.size content.toList)

end TreeTypes.Text
