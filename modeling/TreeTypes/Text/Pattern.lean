import TreeTypes.Text.Alphanumeric

/-!
# Patterns

Which texts are regular expressions. Only the form is looked at, since a log filter has to refuse a
text that is no pattern but never has to match one. Patterns have alternatives, groups, repetition
and classes of characters; counted repetition, the abbreviations for letters, digits, blanks and
word boundaries, references to groups and the folding of case do not exist.
-/

namespace TreeTypes.Text.Pattern

/-- The value of a hexadecimal digit. -/
def hexDigit? (c : Char) : Option Nat :=
  if c.isDigit then some (c.toNat - '0'.toNat)
  else if 'a' ≤ c ∧ c ≤ 'f' then some (c.toNat - 'a'.toNat + 10)
  else if 'A' ≤ c ∧ c ≤ 'F' then some (c.toNat - 'A'.toNat + 10)
  else none

/-- The character whose code point has so many further hexadecimal digits. -/
def codePoint? : (count : Nat) → (code : Nat) → List Char → Option (Char × List Char)
  | 0, code, cs => if code.isValidChar then some (Char.ofNat code, cs) else none
  | _ + 1, _, [] => none
  | count + 1, code, c :: cs => do
    let digit ← hexDigit? c
    codePoint? count (code * 16 + digit) cs

/-- The character that an escape stands for, if it does not stand for an end of the text. What is
read begins after the backslash. -/
def escape? : List Char → Option (Option Char × List Char)
  | [] => none
  | c :: cs =>
    let code (count : Nat) := (codePoint? count 0 cs).map fun (c, cs) => (some c, cs)
    match c with
    | 'x' => code 2
    | 'u' => code 4
    | 'U' => code 8
    | 'a' => some (some '\x07', cs)
    | 't' => some (some '\t', cs)
    | 'n' => some (some '\n', cs)
    | 'v' => some (some '\x0b', cs)
    | 'f' => some (some '\x0c', cs)
    | 'r' => some (some '\x0d', cs)
    | 'A' | 'z' => some (none, cs)
    | '<' | '>' => none
    | c => if c.toNat < 0x80 && !c.isAlphanum then some (some c, cs) else none

/-- The names of the classes of ASCII characters. -/
def classNames : List String := [
  "alnum", "alpha", "ascii", "blank", "cntrl", "digit", "graph", "lower", "print", "punct", "space",
  "upper", "word", "xdigit"]

/-- The text behind a named class, whose first bracket has been read. -/
def namedClass? : List Char → Option (List Char)
  | ':' :: cs =>
    let cs := if cs.head? = some '^' then cs.tail else cs
    match cs.dropWhile (· != ':') with
    | ':' :: ']' :: rest =>
      if classNames.contains (String.ofList (cs.takeWhile (· != ':'))) then some rest else none
    | _ => none
  | _ => none

/-- The text behind the front of a class: the mark of a complement, and the characters that stand
for themselves there only. -/
def classFront (cs : List Char) : List Char :=
  let cs := if cs.head? = some '^' then cs.tail else cs
  match cs with
  | ']' :: rest => rest
  | cs => cs.dropWhile (· == '-')

/-- Read a character of a class. -/
def classChar? : List Char → Option (Char × List Char)
  | [] => none
  | '\\' :: cs =>
    match escape? cs with
    | some (some c, rest) => some (c, rest)
    | _ => none
  | c :: cs => some (c, cs)

/-- The text behind the closing bracket of a class that has so many classes around it. -/
def classEnd? : (fuel : Nat) → (outer : Nat) → List Char → Option (List Char)
  | 0, _, _ => none
  | fuel + 1, outer, cs =>
    match cs with
    | ']' :: rest =>
      match outer with
      | 0 => some rest
      | outer + 1 => classEnd? fuel outer rest
    | '[' :: rest =>
      match namedClass? rest with
      | some rest => classEnd? fuel outer rest
      | none => classEnd? fuel (outer + 1) (classFront rest)
    | '&' :: '&' :: rest | '-' :: '-' :: rest | '~' :: '~' :: rest => classEnd? fuel outer rest
    | cs => do
      let (first, rest) ← classChar? cs
      match rest with
      | '-' :: ']' :: _ | '-' :: '-' :: _ => classEnd? fuel outer rest
      | '-' :: rest =>
        let (last, rest) ← classChar? rest
        if first ≤ last then classEnd? fuel outer rest else none
      | rest => classEnd? fuel outer rest

/-- Whether a text may be the name of a group. -/
def isGroupName : List Char → Bool
  | [] => false
  | c :: cs =>
    (c == '_' || (isAlphanumeric c && !c.isDigit)) &&
      cs.all fun c => isAlphanumeric c || ['_', '.', '[', ']'].contains c

/-- Whether characters are flags: none twice, and a dash only in front of those that it unsets. -/
def areFlags (cs : List Char) : Bool :=
  cs.all ['m', 's', 'U', 'u', 'R', 'x', 'i', '-'].contains && cs.eraseDups.length == cs.length &&
    cs.getLast? != some '-' && !(cs.takeWhile (· != '-')).contains 'i'

/-- What a parenthesis opens. -/
inductive Opened where
  | group (rest : List Char)
  /-- Flags for what follows, which have been closed again. -/
  | flags (rest : List Char)

/-- Read what stands behind an opening parenthesis. -/
def opened? (cs : List Char) : Option Opened :=
  let named (cs : List Char) : Option Opened :=
    match cs.dropWhile (· != '>') with
    | '>' :: rest => if isGroupName (cs.takeWhile (· != '>')) then some (.group rest) else none
    | _ => none
  match cs with
  | '?' :: 'P' :: '<' :: cs | '?' :: '<' :: cs => named cs
  | '?' :: cs =>
    let isEnd (c : Char) : Bool := c == ':' || c == ')'
    let flags := cs.takeWhile (!isEnd ·)
    match cs.dropWhile (!isEnd ·) with
    | ':' :: rest => if areFlags flags then some (.group rest) else none
    | ')' :: rest => if areFlags flags && !flags.isEmpty then some (.flags rest) else none
    | _ => none
  | cs => some (.group cs)

/-- Whether a text completes a pattern with so many open groups. `repeatable` says whether something
that may be repeated stands directly before it. -/
def completes : (fuel : Nat) → (groups : Nat) → (repeatable : Bool) → List Char → Bool
  | _, groups, _, [] => groups == 0
  | 0, _, _, _ :: _ => false
  | fuel + 1, groups, repeatable, c :: cs =>
    match c with
    | '(' =>
      match opened? cs with
      | some (.group rest) => completes fuel (groups + 1) false rest
      | some (.flags rest) => completes fuel groups false rest
      | none => false
    | ')' => groups != 0 && completes fuel (groups - 1) true cs
    | '|' => completes fuel groups false cs
    | '*' | '+' | '?' => repeatable && completes fuel groups true cs
    | '\x7b' => false
    | '[' =>
      match classEnd? cs.length 0 (classFront cs) with
      | some rest => completes fuel groups true rest
      | none => false
    | '\\' =>
      match escape? cs with
      | some (_, rest) => completes fuel groups true rest
      | none => false
    | _ => completes fuel groups true cs

/-- Whether a text is a pattern. -/
def isPattern (text : String) : Bool :=
  completes text.toList.length 0 false text.toList

end TreeTypes.Text.Pattern
