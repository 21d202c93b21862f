import TreeTypes.Text.CodeRun

/-!
# Blank characters

The `White_Space` property: the characters that separate tokens of a schema entry and that are
trimmed from its names.
-/

namespace TreeTypes.Text

/-- The `White_Space` characters beyond ASCII. -/
def blankRuns : List CodeRun := [
  ⟨0x85, 0x85, 1⟩, ⟨0xA0, 0xA0, 1⟩, ⟨0x1680, 0x1680, 1⟩, ⟨0x2000, 0x200A, 1⟩,
  ⟨0x2028, 0x2029, 1⟩, ⟨0x202F, 0x202F, 1⟩, ⟨0x205F, 0x205F, 1⟩, ⟨0x3000, 0x3000, 1⟩]

/-- Whether a character is white space. -/
def isBlank (c : Char) : Bool :=
  if c.toNat < 0x80 then (9 ≤ c.toNat && c.toNat ≤ 13) || c.toNat == 32
  else inRuns blankRuns c

end TreeTypes.Text
