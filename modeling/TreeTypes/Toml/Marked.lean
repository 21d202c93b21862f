import TreeTypes.Toml.Moment

/-!
# Marked moments

A moment may also be written as a table: one whose first key is the mark stands for the moment that
the text under it spells, whatever other entries it has. In any other place the mark is a key like
every other.
-/

namespace TreeTypes.Toml

/-- The key that makes a table a moment. -/
def momentMark : String := "$__toml_private_datetime"

/-- The value under the mark, if the first key is the mark. -/
def marked? : List (String × Toml) → Option Toml
  | (key, value) :: _ => if key = momentMark then some value else none
  | [] => none

/-- The moment that a whole text spells. -/
def momentOf? (text : String) : Option Toml :=
  match readMoment text.toList with
  | some (value, []) => some value
  | _ => none

mutual

/-- A value with its marked tables read as moments. Nothing is read unless every mark stands over a
text that spells a moment. -/
def readMarks : Toml → Option Toml
  | .table entries =>
    match marked? entries with
    | some (.text spelled) => momentOf? spelled
    | some _ => none
    | none => (readEntryMarks entries).map .table
  | .array elements => (readElementMarks elements).map .array
  | value => some value

/-- Elements with their marked tables read as moments. -/
def readElementMarks : List Toml → Option (List Toml)
  | [] => some []
  | element :: rest => do
    let element ← readMarks element
    let rest ← readElementMarks rest
    return element :: rest

/-- Entries with their marked tables read as moments. -/
def readEntryMarks : List (String × Toml) → Option (List (String × Toml))
  | [] => some []
  | (key, value) :: rest => do
    let value ← readMarks value
    let rest ← readEntryMarks rest
    return (key, value) :: rest

end

end TreeTypes.Toml
