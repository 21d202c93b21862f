import TreeTypes.Toml.Value

/-!
# TOML strings

Strings come in four forms: basic strings with escapes and literal strings without, each on one line
or over several. Over several lines a line break right after the opening quotes does not count, and
up to two quotes may stand directly before the closing ones.
-/

namespace TreeTypes.Toml

/-- Whether a character may stand unescaped in a string, quotes and backslashes apart. -/
def isTextChar (c : Char) : Bool :=
  c == '\t' || (' ' ≤ c && c.toNat != 0x7F)

/-- Whether a character is a hexadecimal digit. -/
def isHexDigit (c : Char) : Bool :=
  c.isDigit || ('a' ≤ c && c ≤ 'f') || ('A' ≤ c && c ≤ 'F')

/-- The character with a code point of so many hexadecimal digits. -/
def codeEscape (count : Nat) (cs : List Char) : Option (Char × List Char) :=
  let digits := cs.take count
  let code := digitsValue 16 digits
  if digits.length = count ∧ digits.all isHexDigit ∧ code.isValidChar then
    some (Char.ofNat code, cs.drop count)
  else none

/-- The character that an escape stands for. The text begins after the backslash. -/
def escapedChar : List Char → Option (Char × List Char)
  | 'b' :: rest => some ('\x08', rest)
  | 't' :: rest => some ('\t', rest)
  | 'n' :: rest => some ('\n', rest)
  | 'f' :: rest => some ('\x0c', rest)
  | 'r' :: rest => some ('\x0d', rest)
  | '"' :: rest => some ('"', rest)
  | '\\' :: rest => some ('\\', rest)
  | 'u' :: rest => codeEscape 4 rest
  | 'U' :: rest => codeEscape 8 rest
  | _ => none

/-- A basic string on one line, up to its closing quote. -/
def basicChars : (fuel : Nat) → Reader (List Char)
  | 0, _ => none
  | _ + 1, [] => none
  | fuel + 1, c :: rest =>
    if c = '"' then some ([], rest)
    else if c = '\\' then do
      let (decoded, rest) ← escapedChar rest
      let (more, rest) ← basicChars fuel rest
      return (decoded :: more, rest)
    else if isTextChar c then do
      let (more, rest) ← basicChars fuel rest
      return (c :: more, rest)
    else none

/-- A literal string on one line, up to its closing quote. -/
def literalChars : Reader (List Char)
  | [] => none
  | c :: rest =>
    if c.toNat = 0x27 then some ([], rest)
    else if isTextChar c then (literalChars rest).map fun (more, rest) => (c :: more, rest)
    else none

/-- How many of the characters at the front are this quote. -/
def quoteRun (quote : Char) (cs : List Char) : Nat :=
  (cs.takeWhile (· == quote)).length

/-- Spaces and line breaks that a backslash at the end of a line joins to it. -/
def skipBlankLines : (fuel : Nat) → List Char → List Char
  | 0, cs => cs
  | fuel + 1, cs =>
    match lineBreak? cs with
    | some rest => skipBlankLines fuel rest
    | none =>
      match cs with
      | c :: rest => if isSpace c then skipBlankLines fuel rest else cs
      | [] => []

/-- A string over several lines, up to its closing quotes. Escapes are read on demand. -/
def longChars (quote : Char) (escapes : Bool) : (fuel : Nat) → Reader (List Char)
  | 0, _ => none
  | fuel + 1, cs =>
    let run := quoteRun quote cs
    if 3 ≤ run then
      let extra := min 2 (run - 3)
      some (List.replicate extra quote, cs.drop (3 + extra))
    else match lineBreak? cs with
      | some rest => do
        let (more, rest) ← longChars quote escapes fuel rest
        return ('\n' :: more, rest)
      | none =>
        match cs with
        | [] => none
        | c :: rest =>
          if c = '\\' ∧ escapes then
            match lineBreak? (skipSpaces rest) with
            | some after => longChars quote escapes fuel (skipBlankLines after.length after)
            | none => do
              let (decoded, rest) ← escapedChar rest
              let (more, rest) ← longChars quote escapes fuel rest
              return (decoded :: more, rest)
          else if isTextChar c then do
            let (more, rest) ← longChars quote escapes fuel rest
            return (c :: more, rest)
          else none

/-- The text after a line break right behind opening quotes. -/
def skipFirstBreak (cs : List Char) : List Char :=
  (lineBreak? cs).getD cs

/-- The character that encloses literal strings. -/
def literalQuote : Char := '\x27'

/-- Read a string on one line. -/
def readShortText (cs : List Char) : Option (String × List Char) :=
  match cs with
  | c :: rest =>
    if c = '"' then (basicChars (rest.length + 1) rest).map fun (t, rest) => (String.ofList t, rest)
    else if c = literalQuote then (literalChars rest).map fun (t, rest) => (String.ofList t, rest)
    else none
  | [] => none

/-- Read a string in any of the four forms. -/
def readText (cs : List Char) : Option (String × List Char) :=
  match cs with
  | c :: _ =>
    if (c = '"' ∨ c = literalQuote) ∧ 3 ≤ quoteRun c cs then
      let body := skipFirstBreak (cs.drop 3)
      (longChars c (c == '"') (body.length + 1) body).map fun (t, rest) => (String.ofList t, rest)
    else readShortText cs
  | [] => none

end TreeTypes.Toml
