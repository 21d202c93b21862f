import TreeTypes.Number.Binary64

/-!
# TOML values

The values of a configuration file. A date or time is only ever read as text, so it is kept as the
text in which it is written in full.
-/

namespace TreeTypes

/-- A TOML value. -/
inductive Toml where
  | text (value : String)
  | integer (value : Int)
  | float (value : Binary64)
  | bool (value : Bool)
  | moment (text : String)
  | array (elements : List Toml)
  | table (entries : List (String × Toml))

namespace Toml

/-- Reading from the front of a text. `none` stands for a text that does not fit. -/
abbrev Reader (α : Type) := List Char → Option (α × List Char)

/-- Whether a character is a space or a tab. -/
def isSpace (c : Char) : Bool :=
  c == ' ' || c == '\t'

/-- The text without the spaces and tabs at its front. -/
def skipSpaces (cs : List Char) : List Char :=
  cs.dropWhile isSpace

/-- The text after a line break. -/
def lineBreak? : List Char → Option (List Char)
  | '\n' :: rest => some rest
  | '\x0d' :: '\n' :: rest => some rest
  | _ => none

/-- Whether a character may stand in a comment. -/
def isCommentChar (c : Char) : Bool :=
  c == '\t' || (' ' ≤ c && c.toNat != 0x7F)

/-- The text behind a comment, if it starts with one. -/
def skipComment : List Char → List Char
  | '#' :: rest => rest.dropWhile isCommentChar
  | cs => cs

/-- The text behind the end of a line that has nothing more than a comment. -/
def lineEnd? (cs : List Char) : Option (List Char) :=
  match skipComment (skipSpaces cs) with
  | [] => some []
  | rest => lineBreak? rest

/-- The digits behind a first one. An underscore must have a digit on either side. -/
def laterDigits (isDigit : Char → Bool) : Reader (List Char)
  | [] => some ([], [])
  | ['_'] => none
  | '_' :: d :: rest =>
    if isDigit d then (laterDigits isDigit rest).map fun (digits, rest) => (d :: digits, rest)
    else none
  | c :: rest =>
    if isDigit c then (laterDigits isDigit rest).map fun (digits, rest) => (c :: digits, rest)
    else some ([], c :: rest)

/-- Digits in groups that single underscores join, without the underscores. -/
def digitGroups (isDigit : Char → Bool) : Reader (List Char)
  | [] => none
  | c :: rest =>
    if isDigit c then (laterDigits isDigit rest).map fun (digits, rest) => (c :: digits, rest)
    else none

/-- The value of digits in a base. -/
def digitsValue (base : Nat) (digits : List Char) : Nat :=
  let digitOf (c : Char) : Nat :=
    if c.isDigit then c.toNat - '0'.toNat
    else if 'a' ≤ c then c.toNat - 'a'.toNat + 10 else c.toNat - 'A'.toNat + 10
  digits.foldl (fun value c => value * base + digitOf c) 0

end Toml

end TreeTypes
