import TreeTypes.Text.Printable

/-!
# Quoted text

The form in which a report shows a text that may hold anything: between double quotes, with the
quote, the backslash and everything that would not show by itself escaped.
-/

namespace TreeTypes.Text

/-- The escape of a character by its code point in hexadecimal. -/
def codeEscape (c : Char) : List Char :=
  ['\\', 'u', '\x7b'] ++ Nat.toDigits 16 c.toNat ++ ['\x7d']

/-- A character as it stands in a quoted text. -/
def quotedChar (c : Char) : List Char :=
  if c = '\x00' then ['\\', '0']
  else if c = '\t' then ['\\', 't']
  else if c = '\r' then ['\\', 'r']
  else if c = '\n' then ['\\', 'n']
  else if c = '"' then ['\\', '"']
  else if c = '\\' then ['\\', '\\']
  else if isGraphemeExtend c then codeEscape c
  else if isPrintable c then [c]
  else codeEscape c

/-- A text between quotes, with its characters escaped where needed. -/
def quoted (text : String) : String :=
  String.ofList (['"'] ++ text.toList.flatMap quotedChar ++ ['"'])

/-- Quoted texts in brackets, separated by commas. -/
def quotedList (texts : List String) : String :=
  "[" ++ String.intercalate ", " (texts.map quoted) ++ "]"

end TreeTypes.Text
