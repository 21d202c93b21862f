import TreeTypes.Text.LetterCase
import TreeTypes.Text.Quoted
import TreeTypes.Toml.Document

/-!
# Settings

The values of a configuration, gathered from a file and from the environment. Every value may say
where it came from, which errors about it report. Keys are compared in lower case.
-/

namespace TreeTypes

mutual

/-- What a setting holds. -/
inductive SettingValue where
  | null
  | bool (value : Bool)
  | integer (value : Int)
  | float (value : Binary64)
  | text (value : String)
  | array (elements : List Setting)
  | table (entries : List (String × Setting))

/-- A value together with its origin, if it has one. -/
inductive Setting where
  | mk (origin : Option String) (value : SettingValue)

end

namespace Setting

/-- Where a setting came from. -/
def origin : Setting → Option String
  | mk origin _ => origin

/-- What a setting holds. -/
def value : Setting → SettingValue
  | mk _ value => value

/-- A table without entries and without an origin. -/
def emptyTable : Setting := ⟨none, .table []⟩

/-- A setting that holds nothing. -/
def null : Setting := ⟨none, .null⟩

/-- The entries of a table, and none of anything else. -/
def entries (setting : Setting) : List (String × Setting) :=
  match setting.value with
  | .table entries => entries
  | _ => []

/-- The elements of an array, and none of anything else. -/
def elements (setting : Setting) : List Setting :=
  match setting.value with
  | .array elements => elements
  | _ => []

/-- Whether a setting is a table. -/
def isTable (setting : Setting) : Bool :=
  match setting.value with
  | .table _ => true
  | _ => false

/-- A table with one entry set. Anything but a table is replaced by one. -/
def setEntry (setting : Setting) (key : String) (entry : Setting) : Setting :=
  if setting.isTable then
    ⟨setting.origin, .table
      (if setting.entries.any (·.1 == key) then
        setting.entries.map fun (k, e) => if k = key then (k, entry) else (k, e)
      else setting.entries ++ [(key, entry)])⟩
  else ⟨none, .table [(key, entry)]⟩

/-- The entry of a table, or nothing. -/
def entryOrNull (setting : Setting) (key : String) : Setting :=
  (setting.entries.lookup key).getD null

mutual

/-- The setting that a value of a file stands for. -/
def ofToml (origin : String) : Toml → Setting
  | .text value => ⟨some origin, .text value⟩
  | .integer value => ⟨some origin, .integer value⟩
  | .float value => ⟨some origin, .float value⟩
  | .bool value => ⟨some origin, .bool value⟩
  | .moment text => ⟨some origin, .text text⟩
  | .array elements => ⟨some origin, .array (ofTomlElements origin elements)⟩
  | .table entries => ⟨some origin, .table (ofTomlEntries origin entries)⟩

/-- The settings that the elements of an array stand for. -/
def ofTomlElements (origin : String) : List Toml → List Setting
  | [] => []
  | element :: rest => ofToml origin element :: ofTomlElements origin rest

/-- The settings that the entries of a table stand for. -/
def ofTomlEntries (origin : String) : List (String × Toml) → List (String × Setting)
  | [] => []
  | (key, value) :: rest => (key, ofToml origin value) :: ofTomlEntries origin rest

end

end Setting

end TreeTypes
