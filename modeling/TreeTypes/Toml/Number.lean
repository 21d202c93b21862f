import TreeTypes.Toml.Value

/-!
# TOML numbers

Integers are decimal with an optional sign, or hexadecimal, octal or binary without one, and must
fit into 64 bits. A decimal integer has no leading zero. Floats add a fraction, an exponent or both;
a positive float beyond the range is refused, a negative one is infinite.
-/

namespace TreeTypes.Toml

/-- Whether an integer fits into 64 bits with a sign. -/
def fitsInteger (value : Int) : Bool :=
  -0x8000000000000000 ≤ value && value < 0x8000000000000000

/-- The sign at the front of a number. -/
def readSign : List Char → Bool × List Char
  | '-' :: rest => (true, rest)
  | '+' :: rest => (false, rest)
  | rest => (false, rest)

/-- The digits of a decimal integer: a zero alone, or digits that do not start with one. -/
def decimalDigits : List Char → Option (List Char × List Char)
  | '0' :: rest => some (['0'], rest)
  | cs => digitGroups Char.isDigit cs

/-- An integer if it fits. -/
def integerOf (value : Int) (rest : List Char) : Option (Toml × List Char) :=
  if fitsInteger value then some (.integer value, rest) else none

/-- Read an integer. -/
def readInteger (cs : List Char) : Option (Toml × List Char) :=
  match cs with
  | '0' :: 'x' :: rest => do
    let (digits, rest) ← digitGroups
      (fun c => c.isDigit || ('a' ≤ c && c ≤ 'f') || ('A' ≤ c && c ≤ 'F')) rest
    integerOf (digitsValue 16 digits) rest
  | '0' :: 'o' :: rest => do
    let (digits, rest) ← digitGroups (fun c => '0' ≤ c && c ≤ '7') rest
    integerOf (digitsValue 8 digits) rest
  | '0' :: 'b' :: rest => do
    let (digits, rest) ← digitGroups (fun c => c == '0' || c == '1') rest
    integerOf (digitsValue 2 digits) rest
  | _ => do
    let (negative, rest) := readSign cs
    let (digits, rest) ← decimalDigits rest
    let value : Int := digitsValue 10 digits
    integerOf (if negative then -value else value) rest

/-- The word of a float that is no number or infinite. -/
def specialFloat (negative : Bool) : List Char → Option (Toml × List Char)
  | 'i' :: 'n' :: 'f' :: rest => some (.float (.infinite negative), rest)
  | 'n' :: 'a' :: 'n' :: rest => some (.float .nan, rest)
  | _ => none

/-- The exponent behind the digits of a float. -/
def readExponent : List Char → Option (Option Int × List Char)
  | c :: rest =>
    if c = 'e' ∨ c = 'E' then do
      let (negative, rest) := readSign rest
      let (digits, rest) ← digitGroups Char.isDigit rest
      let value : Int := digitsValue 10 digits
      return (some (if negative then -value else value), rest)
    else some (none, c :: rest)
  | [] => some (none, [])

/-- Whether a text goes on as a float does after its integer digits. -/
def startsFloatTail : List Char → Bool
  | c :: _ => c == '.' || c == 'e' || c == 'E'
  | [] => false

/-- Read a float whose sign and integer digits are known. -/
def floatTail (negative : Bool) (whole : List Char) (cs : List Char) :
    Option (Toml × List Char) := do
  let (places, rest) ← match cs with
    | '.' :: rest => digitGroups Char.isDigit rest
    | _ => some ([], cs)
  let (power, rest) ← readExponent rest
  let value := Binary64.ofDecimal negative (digitsValue 10 (whole ++ places))
    (power.getD 0 - places.length)
  if value = .infinite false then none else return (.float value, rest)

/-- Read an integer or a float. -/
def readNumber (cs : List Char) : Option (Toml × List Char) :=
  let (negative, unsigned) := readSign cs
  match specialFloat negative unsigned with
  | some read => some read
  | none =>
    match decimalDigits unsigned with
    | some (whole, rest) =>
      if startsFloatTail rest then floatTail negative whole rest else readInteger cs
    | none => readInteger cs

end TreeTypes.Toml
