import TreeTypes.CommandLine.LogFilter
import TreeTypes.Settings.Environment
import TreeTypes.Text.Pattern
import TreeTypes.Text.Split

/-!
# Log filters as text

Directives stand between commas. One is a level for every subject, or a target, a span and a
condition on a field in brackets, and a level behind an equals sign; each part may be left out, and
without a level everything passes.

The form of a directive is that of its text without the blanks around it. Its parts are cut from the
text as it stands, at the same distances in bytes from the start, so that blanks at the front shift
every part.
-/

namespace TreeTypes.CommandLine

namespace FilterText

/-- The threshold that a number or the name of a level stands for. -/
def threshold? (cs : List Char) : Option (Option Level) :=
  let digits := if cs.head? = some '+' then cs.tail else cs
  if !digits.isEmpty && digits.all Char.isDigit then
    match digits.dropWhile (· == '0') with
    | [] => some none
    | ['1'] => some (some .error)
    | ['2'] => some (some .warn)
    | ['3'] => some (some .info)
    | ['4'] => some (some .debug)
    | ['5'] => some (some .trace)
    | _ => none
  else match String.ofList (cs.map Char.toLower) with
    | "off" => some none
    | "error" => some (some .error)
    | "warn" => some (some .warn)
    | "info" => some (some .info)
    | "debug" => some (some .debug)
    | "trace" => some (some .trace)
    | _ => none

/-- The first so many bytes of a text, and the rest. -/
def cutBytes : Nat → List Char → Option (List Char × List Char)
  | 0, cs => some ([], cs)
  | _ + 1, [] => none
  | count + 1, c :: cs =>
    if c.utf8Size ≤ count + 1 then
      (cutBytes (count + 1 - c.utf8Size) cs).map fun (front, rest) => (c :: front, rest)
    else none

/-- A directive in the middle of being read. -/
structure Cursor where
  /-- What is left of the text that gives the form. -/
  form : List Char
  /-- What is left of the text that the parts are cut from. -/
  source : List Char
  deriving DecidableEq, Repr

namespace Cursor

/-- A directive of which nothing has been read. -/
def ofText (cs : List Char) : Cursor := ⟨Text.trim cs, cs⟩

/-- The part before the first character that ends it, that character, and what is left behind it. -/
def part? (ends : Char → Bool) (cursor : Cursor) : Option (List Char × Char × Cursor) :=
  match cursor.form.dropWhile (!ends ·) with
  | [] => none
  | c :: form => do
    let length := (String.ofList (cursor.form.takeWhile (!ends ·))).utf8ByteSize
    let (part, source) ← cutBytes length cursor.source
    let (_, source) ← cutBytes c.utf8Size source
    return (part, c, ⟨form, source⟩)

end Cursor

/-- Read a condition on a field. A value is a number or a pattern. -/
def fieldCondition? (cs : List Char) : Option FieldCondition :=
  match Text.split '=' cs with
  | name :: value :: _ =>
    let value := String.ofList value
    if (Environment.readFloat? value).isSome || Text.Pattern.isPattern value then
      some ⟨String.ofList name, some value⟩
    else none
  | _ => if cs.isEmpty then none else some ⟨String.ofList cs, none⟩

/-- Read the level of a directive that is complete but for it. -/
def level? (directive : Directive) (cs : List Char) : Option Directive :=
  if cs.isEmpty then some directive
  else (threshold? cs).map fun threshold => { directive with threshold }

/-- Read what may follow the closing bracket. -/
def afterBracket? (directive : Directive) (cursor : Cursor) : Option Directive :=
  if cursor.form.isEmpty then some directive
  else match cursor.part? (· == '=') with
    | some ([], _, rest) => level? directive rest.source
    | _ => none

/-- Read a span and a condition on a field behind the opening bracket. -/
def bracket? (directive : Directive) (cursor : Cursor) : Option Directive := do
  let (span, stop, rest) ← cursor.part? fun c => c == ']' || c == '\x7b'
  let span := String.ofList span
  if stop = ']' then afterBracket? { directive with span := some span } rest
  else
    let (field, _, rest) ← rest.part? (· == '\x7d')
    let field ← fieldCondition? field
    let directive := { directive with
      span := if span.isEmpty then none else some span
      field := some field }
    match rest.part? (· == ']') with
    | some ([], _, rest) => afterBracket? directive rest
    | _ => none

/-- Whether a directive may start with a character. -/
def isStart (c : Char) : Bool :=
  Text.isAlphanumeric c || c == '-' || c == ':' || c == '_' || c == '['

/-- Read a directive. -/
def directive? (cs : List Char) : Option Directive :=
  let cursor := Cursor.ofText cs
  match cursor.form with
  | [] => none
  | c :: _ =>
    let ends (c : Char) : Bool := c == '=' || c == '['
    if !isStart c then none
    else if cursor.form.any ends then do
      let (target, stop, rest) ← cursor.part? ends
      let target := if target.isEmpty then none else some (String.ofList target)
      if stop = '[' then bracket? { target } rest else level? { target } rest.source
    else match threshold? cs with
      | some threshold => some { threshold }
      | none => some { target := some (String.ofList cs) }

end FilterText

/-- Read a filter. Nothing is read unless every directive is well formed. -/
def LogFilter.parse? (text : String) : Option LogFilter := do
  let pieces := (Text.split ',' text.toList).filter (!·.isEmpty)
  let directives ← pieces.mapM FilterText.directive?
  return ⟨directives⟩

end TreeTypes.CommandLine
