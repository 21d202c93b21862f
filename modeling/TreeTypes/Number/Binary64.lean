/-!
# Binary floating-point numbers as exact values

A number of the 64-bit binary format is kept as a mantissa and a power of two, so that reading and
writing it is exact arithmetic on natural numbers. `nearest` rounds a fraction to the closest number
of the format, a half going to the even mantissa. `shortest` finds the fewest decimal digits that
read back as the same number; of two such decimals it takes the nearer one, and the larger on a tie.
-/

namespace TreeTypes

/-- A number of the 64-bit binary format. A finite one is `mantissa * 2 ^ exponent`. -/
inductive Binary64 where
  | finite (negative : Bool) (mantissa : Nat) (exponent : Int)
  | infinite (negative : Bool)
  | nan
  deriving DecidableEq, Repr

namespace Binary64

/-- A power of two. -/
def twoTo (power : Nat) : Nat := Nat.pow 2 power

/-- A power of ten. -/
def tenTo (power : Nat) : Nat := Nat.pow 10 power

/-- A quotient rounded to the nearest natural number, a half to the even one. -/
def roundDiv (num den : Nat) : Nat :=
  let quotient := num / den
  let twice := 2 * (num % den)
  if twice > den ∨ (twice = den ∧ quotient % 2 = 1) then quotient + 1 else quotient

/-- The fraction scaled by a power of two, as a numerator and a denominator. -/
def scale (num den : Nat) (power : Int) : Nat × Nat :=
  if 0 ≤ power then (num * twoTo power.toNat, den) else (num, den * twoTo (-power).toNat)

/-- The exponent of the highest power of two that is at most the fraction. -/
def highestPower (num den : Nat) : Int :=
  let guess : Int := (Nat.log2 num : Int) - (Nat.log2 den : Int)
  let (n, d) := scale num den (-guess)
  if n < d then guess - 1 else guess

/-- The least exponent of the format. -/
def minExponent : Int := -1074

/-- The greatest exponent of the format. -/
def maxExponent : Int := 971

/-- The number of the format nearest to a positive fraction. -/
def nearest (negative : Bool) (num den : Nat) : Binary64 :=
  if num = 0 then .finite negative 0 minExponent
  else
    let exponent := max (highestPower num den - 52) minExponent
    let (n, d) := scale num den (-exponent)
    let mantissa := roundDiv n d
    let (mantissa, exponent) :=
      if mantissa = twoTo 53 then (twoTo 52, exponent + 1) else (mantissa, exponent)
    if exponent > maxExponent then .infinite negative else .finite negative mantissa exponent

/-- The number nearest to `digits * 10 ^ power`. Far outside the range of the format the answer does
not need the exact power. -/
def ofDecimal (negative : Bool) (digits : Nat) (power : Int) : Binary64 :=
  let magnitude := ((Nat.toDigits 10 digits).length : Int) + power
  if digits = 0 then nearest negative 0 1
  else if magnitude > 400 then .infinite negative
  else if magnitude < -400 then nearest negative 0 1
  else if 0 ≤ power then nearest negative (digits * tenTo power.toNat) 1
  else nearest negative digits (tenTo (-power).toNat)

/-- Whether a number is neither zero nor a negative zero. -/
def isNonzero : Binary64 → Bool
  | finite _ mantissa _ => mantissa != 0
  | infinite _ => true
  | nan => true

/-- The decimal digits and the power of ten of a number on one decimal grid, if a point of that grid
reads back as `mantissa * 2 ^ exponent`. -/
def onGrid (mantissa : Nat) (exponent : Int) (power : Int) : Option Nat :=
  -- everything in quarters of the unit in the last place, as integers over a common denominator
  let (unit, whole) := scale 1 4 exponent
  let (unit, whole) :=
    if 0 ≤ power then (unit, whole * tenTo power.toNat) else (unit * tenTo (-power).toNat, whole)
  let value := 4 * mantissa * unit
  let high := (4 * mantissa + 2) * unit
  let low :=
    if mantissa = twoTo 52 ∧ exponent > minExponent then (4 * mantissa - 1) * unit
    else (4 * mantissa - 2) * unit
  let closed := mantissa % 2 = 0
  let within (n : Nat) : Bool :=
    (low < n * whole ∧ n * whole < high) ∨ (closed ∧ (low = n * whole ∨ n * whole = high))
  let down := value / whole
  let up := down + 1
  if within down ∧ down ≠ 0 then
    if within up ∧ 2 * (value - down * whole) ≥ whole then some up else some down
  else if within up then some up
  else none

/-- The fewest digits that read back, trying grids of growing fineness. -/
def fewestDigits (mantissa : Nat) (exponent : Int) (top : Int) : (grids : Nat) → Nat × Int
  | 0 => (0, 0)
  | grids + 1 =>
    let power := top - (17 - (grids : Int))
    match onGrid mantissa exponent power with
    | some digits => (digits, power)
    | none => fewestDigits mantissa exponent top grids

/-- The number of decimal places to the left of the point of `mantissa * 2 ^ exponent`. -/
def decimalPlaces (mantissa : Nat) (exponent : Int) : Int :=
  let (num, den) := scale mantissa 1 exponent
  if den ≤ num then ((Nat.toDigits 10 (num / den)).length : Int)
  else 1 - ((Nat.toDigits 10 ((den - 1) / num)).length : Int)

/-- The decimal digits of the shortest form and the power of ten that they are multiplied by. -/
def shortest (mantissa : Nat) (exponent : Int) : Nat × Int :=
  fewestDigits mantissa exponent (decimalPlaces mantissa exponent) 18

/-- A decimal in positional notation, without a point where there is no fraction. -/
def positional (digits : Nat) (power : Int) : String :=
  let text := Nat.toDigits 10 digits
  if 0 ≤ power then String.ofList (text ++ List.replicate power.toNat '0')
  else
    let places := (-power).toNat
    let padded := List.replicate (places + 1 - text.length) '0' ++ text
    let whole := padded.take (padded.length - places)
    let fraction := padded.drop (padded.length - places)
    let trimmed := (fraction.reverse.dropWhile (· == '0')).reverse
    if trimmed.isEmpty then String.ofList whole
    else String.ofList (whole ++ '.' :: trimmed)

/-- The text of a number: the shortest digits that read back, always positional. -/
def toText : Binary64 → String
  | nan => "NaN"
  | infinite negative => if negative then "-inf" else "inf"
  | finite negative mantissa exponent =>
    let magnitude :=
      if mantissa = 0 then "0"
      else
        let (digits, power) := shortest mantissa exponent
        positional digits power
    if negative then "-" ++ magnitude else magnitude

end Binary64

end TreeTypes
