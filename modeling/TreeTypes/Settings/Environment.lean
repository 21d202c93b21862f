import TreeTypes.Settings.KeyPath

/-!
# Settings from the environment

A variable whose name starts with the prefix, in any case, sets the key that the rest of its name
spells; two underscores separate the parts of a key. Its text is taken as a boolean, an integer or a
number where it reads as one.
-/

namespace TreeTypes.Environment

/-- What the names of the variables start with. -/
def namePrefix : String := "astgen_"

/-- Where settings from the environment come from. -/
def origin : String := "the environment"

/-- Replace two underscores by a dot, from left to right. -/
def separateParts : List Char → List Char
  | '_' :: '_' :: rest => '.' :: separateParts rest
  | c :: rest => c :: separateParts rest
  | [] => []

/-- The key that a variable sets. -/
def keyOf? (name : String) : Option String :=
  let lowered := (Text.lowerText name).toList
  let start := namePrefix.toList
  if start.isPrefixOf lowered then
    some (String.ofList (separateParts (lowered.drop start.length)))
  else none

/-- A number in decimal notation: digits with an optional point and an optional exponent, or a word
for infinity or for no number. -/
def readFloat? (text : String) : Option Binary64 := do
  let (negative, cs) := Toml.readSign text.toList
  let word := String.ofList (cs.map Char.toLower)
  if word = "inf" ∨ word = "infinity" then return .infinite negative
  if word = "nan" then return .nan
  let whole := cs.takeWhile Char.isDigit
  let rest := cs.dropWhile Char.isDigit
  let (places, rest) := match rest with
    | '.' :: rest => (rest.takeWhile Char.isDigit, rest.dropWhile Char.isDigit)
    | rest => ([], rest)
  if whole.isEmpty ∧ places.isEmpty then none
  let power ← match rest with
    | [] => some (0 : Int)
    | c :: rest =>
      if c = 'e' ∨ c = 'E' then
        let (negative, digits) := Toml.readSign rest
        let value : Int := Toml.digitsValue 10 digits
        if digits.isEmpty || !digits.all Char.isDigit then none
        else some (if negative then -value else value)
      else none
  return .ofDecimal negative (Toml.digitsValue 10 (whole ++ places)) (power - places.length)

/-- An integer of 64 bits with an optional sign. -/
def readInteger? (text : String) : Option Int :=
  let (negative, digits) := Toml.readSign text.toList
  let value : Int := Toml.digitsValue 10 digits
  let value := if negative then -value else value
  if digits.isEmpty || !digits.all Char.isDigit || !Toml.fitsInteger value then none
  else some value

/-- The value that the text of a variable stands for. -/
def valueOf (text : String) : SettingValue :=
  let lowered := Text.lowerText text
  if lowered = "true" then .bool true
  else if lowered = "false" then .bool false
  else match readInteger? text with
    | some value => .integer value
    | none =>
      match readFloat? text with
      | some value => .float value
      | none => .text text

/-- The settings that variables make. -/
def settings (environment : List (String × String)) : List (String × Setting) :=
  environment.filterMap fun (name, text) =>
    (keyOf? name).map fun key => (key, ⟨some origin, valueOf text⟩)

end TreeTypes.Environment
