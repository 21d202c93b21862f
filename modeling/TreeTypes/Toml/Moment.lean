import TreeTypes.Toml.Value

/-!
# TOML dates and times

A moment is a date, a time, or a date and a time with an optional offset. Its text joins date and
time by `T`, shows a fraction of a second without zeros at its end and an offset of zero as it is
signed least.
-/

namespace TreeTypes.Toml

/-- A number of exactly so many digits. -/
def fixedDigits (count : Nat) (cs : List Char) : Option (Nat × List Char) :=
  let digits := cs.take count
  if digits.length = count ∧ digits.all Char.isDigit then
    some (digitsValue 10 digits, cs.drop count)
  else none

/-- The text after a character that must come next. -/
def expectChar (c : Char) : List Char → Option (List Char)
  | d :: rest => if c = d then some rest else none
  | [] => none

/-- A number with zeros in front, up to so many digits. -/
def padded (width n : Nat) : String :=
  let digits := Nat.toDigits 10 n
  String.ofList (List.replicate (width - digits.length) '0' ++ digits)

/-- The number of days in a month. -/
def daysIn (year month : Nat) : Nat :=
  let leap := year % 4 = 0 ∧ (year % 100 ≠ 0 ∨ year % 400 = 0)
  if month = 2 then (if leap then 29 else 28)
  else if [4, 6, 9, 11].contains month then 30 else 31

/-- Read a date. -/
def readDate (cs : List Char) : Option (String × List Char) := do
  let (year, rest) ← fixedDigits 4 cs
  let rest ← expectChar '-' rest
  let (month, rest) ← fixedDigits 2 rest
  let rest ← expectChar '-' rest
  let (day, rest) ← fixedDigits 2 rest
  if 1 ≤ month ∧ month ≤ 12 ∧ 1 ≤ day ∧ day ≤ daysIn year month then
    return (padded 4 year ++ "-" ++ padded 2 month ++ "-" ++ padded 2 day, rest)
  else none

/-- Read the fraction of a second, of which nine digits count. -/
def readFraction (cs : List Char) : Option (String × List Char) :=
  match cs with
  | '.' :: rest =>
    let digits := rest.takeWhile Char.isDigit
    if digits.isEmpty then none
    else
      let kept := ((digits.take 9).reverse.dropWhile (· == '0')).reverse
      some (if kept.isEmpty then "" else "." ++ String.ofList kept, rest.dropWhile Char.isDigit)
  | _ => some ("", cs)

/-- Read a time of day. -/
def readTime (cs : List Char) : Option (String × List Char) := do
  let (hour, rest) ← fixedDigits 2 cs
  let rest ← expectChar ':' rest
  let (minute, rest) ← fixedDigits 2 rest
  let rest ← expectChar ':' rest
  let (second, rest) ← fixedDigits 2 rest
  let (fraction, rest) ← readFraction rest
  if hour ≤ 23 ∧ minute ≤ 59 ∧ second ≤ 60 then
    return (padded 2 hour ++ ":" ++ padded 2 minute ++ ":" ++ padded 2 second ++ fraction, rest)
  else none

/-- Read an offset if there is one. -/
def readOffset (cs : List Char) : Option (String × List Char) :=
  match cs with
  | c :: rest =>
    if c = 'Z' ∨ c = 'z' then some ("Z", rest)
    else if c = '+' ∨ c = '-' then do
      let (hour, rest) ← fixedDigits 2 rest
      let rest ← expectChar ':' rest
      let (minute, rest) ← fixedDigits 2 rest
      if hour ≤ 23 ∧ minute ≤ 59 then
        let sign := if c = '-' ∧ hour * 60 + minute ≠ 0 then "-" else "+"
        return (sign ++ padded 2 hour ++ ":" ++ padded 2 minute, rest)
      else none
    else some ("", cs)
  | [] => some ("", [])

/-- Whether a text starts with the front part of a time of day. -/
def startsTime (cs : List Char) : Bool :=
  match fixedDigits 2 cs with
  | some (hour, ':' :: _) => hour ≤ 23
  | _ => false

/-- Whether a text starts with the front part of a date. -/
def startsDate (cs : List Char) : Bool :=
  match fixedDigits 4 cs with
  | some (_, '-' :: _) => true
  | _ => false

/-- Read a moment whose first part has been recognised. -/
def readMoment (cs : List Char) : Option (Toml × List Char) :=
  if startsDate cs then do
    let (date, rest) ← readDate cs
    match rest with
    | c :: after =>
      if (c = 'T' ∨ c = 't' ∨ c = ' ') ∧ startsTime after then do
        let (time, rest) ← readTime after
        let (offset, rest) ← readOffset rest
        return (.moment (date ++ "T" ++ time ++ offset), rest)
      else return (.moment date, rest)
    | [] => return (.moment date, [])
  else (readTime cs).map fun (time, rest) => (.moment time, rest)

end TreeTypes.Toml
