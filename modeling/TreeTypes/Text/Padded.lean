/-!
# Texts of a fixed width

Texts filled up with blanks, and texts whose lines are indented.
-/

namespace TreeTypes.Text

/-- A text with blanks before it that fill a width. -/
def padded (width : Nat) (text : String) : String :=
  String.ofList (text.toList.leftpad width ' ')

/-- A text whose lines after the first are indented. -/
def indented (width : Nat) (text : String) : String :=
  String.ofList (text.toList.flatMap fun c =>
    if c = '\n' then c :: List.replicate width ' ' else [c])

end TreeTypes.Text
