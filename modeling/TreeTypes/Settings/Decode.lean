import TreeTypes.Settings.KeyPath

/-!
# Decoding settings

Scalars are read leniently: numbers and booleans may stand where a text is wanted, and texts and
numbers where a boolean is. A scalar that cannot be read reports the key it stands under and where
it came from; the other errors do not know their key.
-/

namespace TreeTypes

/-- Why settings do not have the wanted form. -/
inductive DecodeError where
  /-- A scalar of the wrong type, with the key it stands under and its origin. -/
  | scalar (found expected : String) (key origin : Option String)
  /-- A value of the wrong shape. -/
  | shape (found expected : String)
  | missingField (name : String)
  | tooShort (length : Nat) (expected : String)
  | unknownName (type name : String)
  | notName (type : String)
  deriving DecidableEq, Repr

namespace DecodeError

/-- The wording of an error. -/
def message : DecodeError → String
  | scalar found expected key origin =>
    "invalid type: " ++ found ++ ", expected " ++ expected ++
      (match key with
        | some key => " for key `" ++ key ++ "`"
        | none => "") ++
      (match origin with
        | some origin => " in " ++ origin
        | none => "")
  | shape found expected => "invalid type: " ++ found ++ ", expected " ++ expected
  | missingField name => "missing field `" ++ name ++ "`"
  | tooShort length expected => "invalid length " ++ toString length ++ ", expected " ++ expected
  | unknownName type name => "enum " ++ type ++ " does not have variant constructor " ++ name
  | notName type =>
    "value of enum " ++ type ++
      " should be represented by either string or table with exactly one key"

/-- The error as it is seen from the table that holds a key. -/
def underKey (name : String) : DecodeError → DecodeError
  | scalar found expected key origin =>
    let rest := key.getD ""
    let joined := if rest.isEmpty || rest.startsWith "[" then name ++ rest else name ++ "." ++ rest
    scalar found expected (some joined) origin
  | error => error

/-- The error as it is seen from the array that holds an element. -/
def atIndex (index : Nat) : DecodeError → DecodeError
  | scalar found expected key origin =>
    scalar found expected (some ("[" ++ toString index ++ "]" ++ key.getD "")) origin
  | error => error

end DecodeError

/-- Reading a value from a setting. -/
abbrev Decoder (α : Type) := Setting → Except DecodeError α

namespace SettingValue

/-- How an error shows a value that it did not expect. -/
def describe : SettingValue → String
  | null => "unit value"
  | bool value => "boolean `" ++ toString value ++ "`"
  | integer value => "integer `" ++ toString value ++ "`"
  | float value =>
    let text := value.toText
    let text := match value with
      | .finite .. => if text.toList.contains '.' then text else text ++ ".0"
      | _ => text
    "floating point `" ++ text ++ "`"
  | text value => "string " ++ Text.quoted value
  | array _ => "sequence"
  | table _ => "map"

end SettingValue

namespace Decoder

/-- Read a text. -/
def text : Decoder String := fun setting =>
  match setting.value with
  | .text value => .ok value
  | .integer value => .ok (toString value)
  | .float value => .ok value.toText
  | .bool value => .ok (toString value)
  | other => .error (.scalar other.describe "a string" none setting.origin)

/-- Read a boolean. -/
def bool : Decoder Bool := fun setting =>
  match setting.value with
  | .bool value => .ok value
  | .integer value => .ok (value != 0)
  | .float value => .ok value.isNonzero
  | .text value =>
    let lowered := Text.lowerText value
    if ["1", "true", "on", "yes"].contains lowered then .ok true
    else if ["0", "false", "off", "no"].contains lowered then .ok false
    else .error (.scalar (SettingValue.text lowered).describe "a boolean" none setting.origin)
  | other => .error (.scalar other.describe "a boolean" none setting.origin)

/-- Read a value that may be left empty. -/
def optional {α : Type} (decode : Decoder α) : Decoder (Option α) := fun setting =>
  match setting.value with
  | .null => .ok none
  | _ => (decode setting).map some

/-- Read elements from a position on. -/
def elements {α : Type} (decode : Decoder α) (index : Nat) :
    List Setting → Except DecodeError (List α)
  | [] => .ok []
  | setting :: rest => do
    let first ← (decode setting).mapError (·.atIndex index)
    let others ← elements decode (index + 1) rest
    return first :: others

/-- Read a list. -/
def list {α : Type} (decode : Decoder α) : Decoder (List α) := fun setting =>
  match setting.value with
  | .array settings => elements decode 0 settings
  | other => .error (.shape other.describe "a sequence")

/-- Read one of several named values. A table with one entry stands for the name of its key. -/
def named {α : Type} (type : String) (values : List α) (nameOf : α → String) : Decoder α :=
  fun setting =>
    let find (name : String) : Except DecodeError α :=
      match values.find? fun value => Text.lowerText (nameOf value) == Text.lowerText name with
      | some value => .ok value
      | none => .error (.unknownName type name)
    match setting.value with
    | .text name => find name
    | .table [(name, _)] => find name
    | _ => .error (.notName type)

/-- Read the entry of a table, if it is there. -/
def entry? {α : Type} (decode : Decoder α) (entries : List (String × Setting)) (key : String) :
    Except DecodeError (Option α) :=
  match entries.lookup key with
  | none => .ok none
  | some setting => ((decode setting).map some).mapError (·.underKey key)

/-- Read the element of an array, if it is there. -/
def element? {α : Type} (decode : Decoder α) (settings : List Setting) (index : Nat) :
    Except DecodeError (Option α) :=
  match settings[index]? with
  | none => .ok none
  | some setting => ((decode setting).map some).mapError (·.atIndex index)

end Decoder

end TreeTypes
