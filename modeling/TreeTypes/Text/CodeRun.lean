/-!
# Runs of code points

A character property is a set of code points, and the sets that the standard defines are long but
regular: most are unions of intervals, and the letter cases alternate. A `CodeRun` names every
`step`-th code point of an interval, so one short list holds a whole property.

ASCII is never looked up in such a list. Each property tests it directly, which keeps the common
case visible to proofs.
-/

namespace TreeTypes.Text

/-- Every `step`-th code point from `first` to `last`. -/
structure CodeRun where
  first : Nat
  last : Nat
  step : Nat
  deriving DecidableEq

namespace CodeRun

/-- Whether the run holds a code point. -/
def contains (run : CodeRun) (code : Nat) : Bool :=
  run.first ≤ code && code ≤ run.last && (code - run.first) % run.step == 0

theorem contains_iff (run : CodeRun) (code : Nat) :
    run.contains code = true ↔
      run.first ≤ code ∧ code ≤ run.last ∧ (code - run.first) % run.step = 0 := by
  simp [contains, and_assoc]

end CodeRun

/-- Whether one of the runs holds the code point of a character. -/
def inRuns (runs : List CodeRun) (c : Char) : Bool :=
  runs.any (·.contains c.toNat)

end TreeTypes.Text
