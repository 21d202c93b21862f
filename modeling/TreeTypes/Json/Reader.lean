import TreeTypes.Json.Value
import TreeTypes.Json.Fault
import TreeTypes.Number.Binary64

/-!
# Reading JSON

A reader takes characters from the front of a text and returns what it read together with the rest.
Containers may be nested 127 deep. Nesting is the structural argument of `readValue`; the loops over
the elements of one container take the number of unread characters as their bound, since every
element takes at least one.
-/

namespace TreeTypes.Json

/-- Reading from the front of a text. -/
abbrev Reader (α : Type) := List Char → Except FaultAt (α × List Char)

/-- A fault whose place is the next unread byte. -/
def faultAhead {α : Type} (fault : Fault) (unread : List Char) : Except FaultAt α :=
  .error ⟨fault, unread, 1⟩

/-- A fault whose place is the last byte read. -/
def faultHere {α : Type} (fault : Fault) (unread : List Char) : Except FaultAt α :=
  .error ⟨fault, unread, 0⟩

/-- Whether a character may stand between tokens. -/
def isGap (c : Char) : Bool :=
  c == ' ' || c == '\n' || c == '\t' || c == '\r'

/-- The text from its next token on. -/
def skipGap (cs : List Char) : List Char :=
  cs.dropWhile isGap

/-- Read the rest of a word whose first letter is known. -/
def word {α : Type} (meaning : α) : (letters : List Char) → Reader α
  | [], cs => .ok (meaning, cs)
  | _ :: _, [] => faultHere .missingValue []
  | letter :: letters, c :: cs =>
    if c = letter then word meaning letters cs else faultAhead .misspeltWord (c :: cs)

/-- The greatest value that the digits of a number are gathered into. -/
def maxDigits : Nat := Binary64.twoTo 64 - 1

/-- The greatest exponent that is gathered from its digits. -/
def maxExponent : Nat := Binary64.twoTo 31 - 1

/-- The value of a digit. -/
def digitValue (c : Char) : Nat :=
  c.toNat - '0'.toNat

/-- Gather digits into a value while it stays in range. Gives the value, the number of digits
gathered and the digits that remain. -/
def gather (value count : Nat) : List Char → Nat × Nat × List Char
  | [] => (value, count, [])
  | c :: cs =>
    if value * 10 + digitValue c ≤ maxDigits then
      gather (value * 10 + digitValue c) (count + 1) cs
    else (value, count, c :: cs)

/-- An integer rounded to a mantissa of 53 bits. -/
def roundInteger (n : Nat) : Nat :=
  let surplus := n.log2 - 52
  Binary64.roundDiv n (Binary64.twoTo surplus) * Binary64.twoTo surplus

/-- Whether `digits * 10 ^ power` exceeds every number of the 64-bit binary format, each factor and
then the product being rounded to that format. -/
def exceedsRange (digits : Nat) (power : Int) : Bool :=
  if digits = 0 ∨ power < 0 then false
  else if power > 308 then true
  else
    Binary64.twoTo 1024 - Binary64.twoTo 970 ≤
      roundInteger digits * roundInteger (Binary64.tenTo power.toNat)

/-- Read the digits of an exponent after its first one. `none` stands for an exponent that is out of
range, in which case the rest begins after the digit that made it so. -/
def exponentDigits (value : Nat) : List Char → Option Nat × List Char
  | [] => (some value, [])
  | c :: cs =>
    if c.isDigit then
      if value * 10 + digitValue c ≤ maxExponent then
        exponentDigits (value * 10 + digitValue c) cs
      else (none, cs)
    else (some value, c :: cs)

/-- Check a number whose parts are known, up to the characters `rest` behind it. -/
def checkRange (digits : Nat) (power : Int) (rest : List Char) : Except FaultAt (List Char) :=
  if exceedsRange digits power then faultHere .numberOutOfRange rest else .ok rest

/-- Read an exponent if there is one. -/
def exponent (digits : Nat) (power : Int) (cs : List Char) : Except FaultAt (List Char) :=
  match cs with
  | 'e' :: rest | 'E' :: rest =>
    let (negative, rest) := match rest with
      | '+' :: rest => (false, rest)
      | '-' :: rest => (true, rest)
      | rest => (false, rest)
    match rest with
    | [] => faultHere .missingValue []
    | c :: rest' =>
      if c.isDigit then
        match exponentDigits (digitValue c) rest' with
        | (some value, rest) =>
          checkRange digits (if negative then power - value else power + value) rest
        | (none, rest) =>
          if digits ≠ 0 ∧ !negative then faultHere .numberOutOfRange rest
          else .ok (rest.dropWhile Char.isDigit)
      else faultAhead .invalidNumber (c :: rest')
  | cs => checkRange digits power cs

/-- Read a fraction if there is one, and what follows it. -/
def fraction (digits : Nat) (power : Int) (cs : List Char) : Except FaultAt (List Char) :=
  match cs with
  | '.' :: rest =>
    match rest.takeWhile Char.isDigit with
    | [] => if rest.isEmpty then faultHere .missingValue [] else faultAhead .invalidNumber rest
    | places =>
      let (digits, count, _) := gather digits 0 places
      exponent digits (power - count) (rest.dropWhile Char.isDigit)
  | cs => exponent digits power cs

/-- Read a number without its sign. -/
def unsignedNumber (cs : List Char) : Except FaultAt (List Char) :=
  match cs with
  | [] => faultHere .missingValue []
  | '0' :: rest =>
    match rest with
    | c :: _ => if c.isDigit then faultAhead .invalidNumber rest else fraction 0 0 rest
    | [] => .ok []
  | c :: _ =>
    if c.isDigit then
      let (digits, _, surplus) := gather 0 0 (cs.takeWhile Char.isDigit)
      fraction digits surplus.length (cs.dropWhile Char.isDigit)
    else faultAhead .invalidNumber cs

/-- Read a number. -/
def readNumber (cs : List Char) : Except FaultAt (Json × List Char) :=
  let unsigned := match cs with
    | '-' :: rest => rest
    | cs => cs
  (unsignedNumber unsigned).map fun rest =>
    (.number (String.ofList (cs.take (cs.length - rest.length))), rest)

/-- The value of a hexadecimal digit. -/
def hexValue? (c : Char) : Option Nat :=
  if c.isDigit then some (c.toNat - '0'.toNat)
  else if 'a' ≤ c ∧ c ≤ 'f' then some (c.toNat - 'a'.toNat + 10)
  else if 'A' ≤ c ∧ c ≤ 'F' then some (c.toNat - 'A'.toNat + 10)
  else none

/-- The four hexadecimal digits of an escape. -/
def hexEscape (cs : List Char) : Except FaultAt (Nat × List Char) :=
  let invalid := if byteLength cs < 4 then faultHere .unclosedString []
    else .error ⟨.invalidEscape, cs, 4⟩
  match cs with
  | a :: b :: c :: d :: rest =>
    match hexValue? a, hexValue? b, hexValue? c, hexValue? d with
    | some a, some b, some c, some d => .ok (((a * 16 + b) * 16 + c) * 16 + d, rest)
    | _, _, _, _ => invalid
  | _ => invalid

/-- The character of an escape by number. A character beyond the basic plane takes two escapes. -/
def codeEscape (cs : List Char) : Except FaultAt (Char × List Char) := do
  let (high, rest) ← hexEscape cs
  if 0xDC00 ≤ high ∧ high ≤ 0xDFFF then faultHere .loneSurrogate rest
  else if high < 0xD800 ∨ 0xDBFF < high then return (Char.ofNat high, rest)
  else match rest with
    | [] => faultHere .unclosedString []
    | '\\' :: [] => faultHere .unclosedString []
    | '\\' :: 'u' :: rest =>
      let (low, rest) ← hexEscape rest
      if low < 0xDC00 ∨ 0xDFFF < low then faultHere .loneSurrogate rest
      else return (Char.ofNat ((high - 0xD800) * 0x400 + (low - 0xDC00) + 0x10000), rest)
    | '\\' :: rest => faultAhead .unpairedSurrogate rest
    | rest => faultAhead .unpairedSurrogate rest

/-- The character that an escape stands for. The text begins after the backslash. -/
def escapedChar : List Char → Except FaultAt (Char × List Char)
  | [] => faultHere .unclosedString []
  | c :: rest =>
    match c with
    | '"' => .ok ('"', rest)
    | '\\' => .ok ('\\', rest)
    | '/' => .ok ('/', rest)
    | 'b' => .ok ('\x08', rest)
    | 'f' => .ok ('\x0c', rest)
    | 'n' => .ok ('\n', rest)
    | 'r' => .ok ('\r', rest)
    | 't' => .ok ('\t', rest)
    | 'u' => codeEscape rest
    | _ => faultAhead .invalidEscape (c :: rest)

/-- The characters of a string up to its closing quote. `fuel` bounds the number of characters. -/
def stringChars : (fuel : Nat) → Reader (List Char)
  | 0, cs => faultHere .unclosedString cs
  | _ + 1, [] => faultHere .unclosedString []
  | fuel + 1, c :: rest =>
    if c = '"' then .ok ([], rest)
    else if c = '\\' then do
      let (decoded, rest) ← escapedChar rest
      let (decodedRest, rest) ← stringChars fuel rest
      return (decoded :: decodedRest, rest)
    else if c.toNat < 0x20 then faultAhead .controlCharacter (c :: rest)
    else do
      let (decodedRest, rest) ← stringChars fuel rest
      return (c :: decodedRest, rest)

/-- Read a string whose opening quote has been read. -/
def readString (cs : List Char) : Except FaultAt (String × List Char) :=
  (stringChars (cs.length + 1) cs).map fun (decoded, rest) => (String.ofList decoded, rest)

/-- The elements of a list after its first one, and the closing bracket. -/
def laterElements {α : Type} (element : Reader α) : (fuel : Nat) → Reader (List α)
  | 0, cs => faultHere .unclosedList cs
  | fuel + 1, cs =>
    match skipGap cs with
    | [] => faultAhead .unclosedList []
    | ']' :: rest => .ok ([], rest)
    | ',' :: rest =>
      match skipGap rest with
      | [] => faultAhead .missingValue []
      | ']' :: rest => faultAhead .trailingComma (']' :: rest)
      | rest => do
        let (first, rest) ← element rest
        let (others, rest) ← laterElements element fuel rest
        return (first :: others, rest)
    | rest => faultAhead .expectedListEnd rest

/-- The elements of a list whose opening bracket has been read. -/
def readElements {α : Type} (element : Reader α) (cs : List Char) :
    Except FaultAt (List α × List Char) :=
  match skipGap cs with
  | [] => faultAhead .unclosedList []
  | ']' :: rest => .ok ([], rest)
  | rest => do
    let (first, rest) ← element rest
    let (others, rest) ← laterElements element (rest.length + 1) rest
    return (first :: others, rest)

/-- A member of an object whose opening quote has been read. -/
def readMember {α : Type} (element : Reader α) (cs : List Char) :
    Except FaultAt ((String × α) × List Char) := do
  let (key, rest) ← readString cs
  match skipGap rest with
  | [] => faultAhead .unclosedObject []
  | ':' :: rest =>
    let (value, rest) ← element rest
    return ((key, value), rest)
  | rest => faultAhead .expectedColon rest

/-- The members of an object after its first one, and the closing brace. -/
def laterMembers {α : Type} (element : Reader α) : (fuel : Nat) → Reader (List (String × α))
  | 0, cs => faultHere .unclosedObject cs
  | fuel + 1, cs =>
    match skipGap cs with
    | [] => faultAhead .unclosedObject []
    | '\x7d' :: rest => .ok ([], rest)
    | ',' :: rest =>
      match skipGap rest with
      | [] => faultAhead .missingValue []
      | '"' :: rest => do
        let (first, rest) ← readMember element rest
        let (others, rest) ← laterMembers element fuel rest
        return (first :: others, rest)
      | '\x7d' :: rest => faultAhead .trailingComma ('\x7d' :: rest)
      | rest => faultAhead .keyNotString rest
    | rest => faultAhead .expectedObjectEnd rest

/-- The members of an object whose opening brace has been read. -/
def readMembers {α : Type} (element : Reader α) (cs : List Char) :
    Except FaultAt (List (String × α) × List Char) :=
  match skipGap cs with
  | [] => faultAhead .unclosedObject []
  | '\x7d' :: rest => .ok ([], rest)
  | '"' :: rest => do
    let (first, rest) ← readMember element rest
    let (others, rest) ← laterMembers element (rest.length + 1) rest
    return (first :: others, rest)
  | rest => faultAhead .keyNotString rest

/-- Read one value. `depth` bounds how deep containers may still be nested. -/
def readValue : (depth : Nat) → Reader Json
  | depth, cs =>
    match skipGap cs with
    | [] => faultAhead .missingValue []
    | c :: rest =>
      if c = 'n' then word .null ['u', 'l', 'l'] rest
      else if c = 't' then word (.bool true) ['r', 'u', 'e'] rest
      else if c = 'f' then word (.bool false) ['a', 'l', 's', 'e'] rest
      else if c = '-' || c.isDigit then readNumber (c :: rest)
      else if c = '"' then (readString rest).map fun (text, rest) => (.string text, rest)
      else if c = '[' then
        match depth with
        | 0 => faultAhead .nestedTooDeep (c :: rest)
        | depth + 1 =>
          (readElements (readValue depth) rest).map fun (read, rest) => (.array read, rest)
      else if c = '\x7b' then
        match depth with
        | 0 => faultAhead .nestedTooDeep (c :: rest)
        | depth + 1 =>
          (readMembers (readValue depth) rest).map fun (read, rest) =>
            (.object (read.foldl (fun kept (key, value) => insertMember key value kept) []), rest)
      else faultAhead .expectedValue (c :: rest)

/-- How deep containers may be nested. -/
def maxDepth : Nat := 127

/-- Read a whole text as one value. -/
def read (text : List Char) : Except PlacedFault Json :=
  let found : Except FaultAt Json := do
    let (json, rest) ← readValue maxDepth text
    match skipGap rest with
    | [] => return json
    | rest => faultAhead .trailingCharacters rest
  found.mapError (·.place text)

end TreeTypes.Json
