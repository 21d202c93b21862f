import TreeTypes.Json.Value

/-!
# Writing JSON

The text of a JSON value on one line. Quotes, backslashes and control characters are escaped, and
every other character stands for itself.
-/

namespace TreeTypes.Json

/-- A code point below 256 as two digits in hexadecimal. -/
def hexPair (n : Nat) : List Char :=
  [Nat.digitChar (n / 16), Nat.digitChar (n % 16)]

/-- A character as it stands between quotes. -/
def writeChar (c : Char) : List Char :=
  if c = '"' then ['\\', '"']
  else if c = '\\' then ['\\', '\\']
  else if c.toNat < 32 then ['\\', 'u', '0', '0'] ++ hexPair c.toNat
  else [c]

/-- A text between quotes. -/
def writeString (text : String) : String :=
  String.ofList (['"'] ++ text.toList.flatMap writeChar ++ ['"'])

mutual

/-- The text of a value. -/
def write : Json → String
  | .null => "null"
  | .bool true => "true"
  | .bool false => "false"
  | .number literal => literal
  | .string text => writeString text
  | .array elements => "[" ++ String.intercalate "," (writeElements elements) ++ "]"
  | .object members => "\x7b" ++ String.intercalate "," (writeMembers members) ++ "\x7d"

/-- The texts of the elements of an array. -/
def writeElements : List Json → List String
  | [] => []
  | element :: rest => write element :: writeElements rest

/-- The texts of the members of an object. -/
def writeMembers : List (String × Json) → List String
  | [] => []
  | (key, value) :: rest => (writeString key ++ ":" ++ write value) :: writeMembers rest

end

end TreeTypes.Json
