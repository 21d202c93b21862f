/-!
# Faults of a JSON text and their places

A fault is found while some characters of the text are still unread. Its place is given as a line
and a column, lines counting from one and columns counting the bytes of UTF-8 in the line. Some
faults lie at the next unread byte, others just before it, so a fault also says how many unread
bytes belong to it.
-/

namespace TreeTypes.Json

/-- What is wrong with a JSON text. -/
inductive Fault where
  | unclosedList
  | unclosedObject
  | unclosedString
  | missingValue
  | expectedColon
  | expectedListEnd
  | expectedObjectEnd
  | misspeltWord
  | expectedValue
  | invalidEscape
  | invalidNumber
  | numberOutOfRange
  | controlCharacter
  | keyNotString
  | loneSurrogate
  | unpairedSurrogate
  | trailingComma
  | trailingCharacters
  | nestedTooDeep
  deriving DecidableEq, Repr

/-- The wording of a fault. -/
def Fault.message : Fault → String
  | unclosedList => "EOF while parsing a list"
  | unclosedObject => "EOF while parsing an object"
  | unclosedString => "EOF while parsing a string"
  | missingValue => "EOF while parsing a value"
  | expectedColon => "expected `:`"
  | expectedListEnd => "expected `,` or `]`"
  | expectedObjectEnd => "expected `,` or `\x7d`"
  | misspeltWord => "expected ident"
  | expectedValue => "expected value"
  | invalidEscape => "invalid escape"
  | invalidNumber => "invalid number"
  | numberOutOfRange => "number out of range"
  | controlCharacter => "control character (\\u0000-\\u001F) found while parsing a string"
  | keyNotString => "key must be a string"
  | loneSurrogate => "lone leading surrogate in hex escape"
  | unpairedSurrogate => "unexpected end of hex escape"
  | trailingComma => "trailing comma"
  | trailingCharacters => "trailing characters"
  | nestedTooDeep => "recursion limit exceeded"

/-- A fault found in front of the characters `unread`, `ahead` of whose bytes belong to it. -/
structure FaultAt where
  fault : Fault
  unread : List Char
  ahead : Nat

/-- A fault together with its line and column. -/
structure PlacedFault where
  fault : Fault
  line : Nat
  column : Nat
  deriving DecidableEq, Repr

/-- The wording of a fault with its place. -/
def PlacedFault.message (placed : PlacedFault) : String :=
  placed.fault.message ++ " at line " ++ toString placed.line ++ " column " ++
    toString placed.column

/-- The number of bytes of a text in UTF-8. -/
def byteLength : List Char → Nat
  | [] => 0
  | c :: cs => c.utf8Size + byteLength cs

/-- The line and column after a number of bytes of a text. -/
def placeOf (line column : Nat) : List Char → (bytes : Nat) → Nat × Nat
  | [], _ => (line, column)
  | c :: cs, bytes =>
    if bytes = 0 then (line, column)
    else if c = '\n' then placeOf (line + 1) 0 cs (bytes - 1)
    else if c.utf8Size ≤ bytes then placeOf line (column + c.utf8Size) cs (bytes - c.utf8Size)
    else (line, column + bytes)

/-- The place of a fault in the whole text. -/
def FaultAt.place (text : List Char) (found : FaultAt) : PlacedFault :=
  let total := byteLength text
  let (line, column) := placeOf 1 0 text (min total (total - byteLength found.unread + found.ahead))
  ⟨found.fault, line, column⟩

end TreeTypes.Json
