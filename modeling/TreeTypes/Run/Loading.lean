import TreeTypes.Error
import TreeTypes.Settings.Environment

/-!
# Loading a configuration

A configuration file is TOML, and its name may be given without the extension. Variables of the
environment are layered over it. The paths in it are read from the directory that holds it, and what
comes out is checked to be valid.
-/

namespace TreeTypes

namespace Decoder

/-- Read a path. -/
def path : Decoder Path := fun setting => (text setting).map Path.mk

/-- Read the options of the generated text. -/
def sourceOptions : Decoder SourceOptions := fun setting =>
  match setting.value with
  | .table entries => do
    let docs ← entry? bool entries "generate_docs"
    let derives ← entry? (list text) entries "derives"
    let modulePrefix ← entry? (optional text) entries "module_prefix"
    return ⟨docs.getD true, derives.getD [], modulePrefix.join⟩
  | .array settings => do
    let docs ← element? bool settings 0
    let derives ← element? (list text) settings 1
    let modulePrefix ← element? (optional text) settings 2
    return ⟨docs.getD true, derives.getD [], modulePrefix.join⟩
  | other => .error (.shape other.describe "struct GeneratorConfig")

/-- Read a target. -/
def target : Decoder Target := fun setting =>
  match setting.value with
  | .table entries => do
    let name ← entry? text entries "name"
    let output ← entry? path entries "output"
    let preludeLines ← entry? (list text) entries "prelude"
    match name, output with
    | none, _ => throw (.missingField "name")
    | _, none => throw (.missingField "output")
    | some name, some output => return ⟨name, output, preludeLines.getD []⟩
  | .array settings => do
    let name ← element? text settings 0
    let output ← element? path settings 1
    let preludeLines ← element? (list text) settings 2
    match name, output with
    | none, _ => throw (.tooShort 0 "struct FamilyTarget with 3 elements")
    | _, none => throw (.tooShort 1 "struct FamilyTarget with 3 elements")
    | some name, some output => return ⟨name, output, preludeLines.getD []⟩
  | other => .error (.shape other.describe "struct FamilyTarget")

/-- Read a configuration. -/
def runConfig : Decoder RunConfig := fun setting => do
  let entries := setting.entries
  let schema ← entry? path entries "schema"
  let strategy ← entry? (named "Strategy" Strategy.all Strategy.name) entries "strategy"
  let policy ← entry? (optional (named "Policy" Policy.all Policy.name)) entries "policy"
  let handle ← entry? (named "SharedHandle" SharedHandle.all SharedHandle.name) entries
    "shared_handle"
  let externTypes ← entry? (list text) entries "extern_types"
  let options ← entry? sourceOptions entries "generator"
  let targets ← entry? (list target) entries "families"
  match schema with
  | none => throw (.missingField "schema")
  | some schema =>
    return {
      schema
      strategy := strategy.getD .closedUnion
      policy := policy.join
      handle := handle.getD .rc
      externTypes := externTypes.getD []
      options := options.getD {}
      targets := targets.getD [] }

end Decoder

namespace Path

/-- Where the settings of a file come from: the file's components below the directory in which paths
are read. -/
def settingsOrigin (path : Path) : String :=
  String.intercalate "/" (path.pieces.filter (!isSkipped ·))

/-- The path of the file whose name is given without its extension. -/
def withExtension (path : Path) (extension : String) : Path :=
  match path.front.2.reverse.dropWhile isSkipped with
  | [] => path
  | last :: before =>
    if last = ".." then path
    else ⟨path.front.1 ++ String.intercalate "/" ((last ++ "." ++ extension) :: before).reverse⟩

end Path

namespace RunConfig

/-- The extension of configuration files. -/
def fileExtension : String := "toml"

/-- The configuration that the text of a file and the variables of the environment make. -/
def ofTexts (origin text : String) (environment : List (String × String)) :
    Except LoadFault RunConfig :=
  match Toml.parse text with
  | none => .error .notToml
  | some document =>
    let setting := Setting.ofToml origin document
    if setting.isTable then
      let settings := Setting.layered [setting.entries, Environment.settings environment]
      (Decoder.runConfig settings).mapError .undecodable
    else .error (.notTable setting.value.describe origin)

variable {m : Type → Type} [Monad m] [FileAccess m]

/-- The file that a name stands for: the file of that name, or else the one with the extension. -/
def findFile (name : Path) : m (Option Path) := do
  if ← FileAccess.isFile name then return some name
  let extended := name.withExtension fileExtension
  if ← FileAccess.isFile extended then return some extended
  return none

/-- Read a configuration from its file and the environment, without looking into what it says. -/
def readFrom (name : Path) (environment : List (String × String)) :
    m (Except LoadFault RunConfig) := do
  match ← findFile name with
  | none => return .error (.missing name)
  | some file =>
    match ← FileAccess.readText file with
    | .error failure => return .error (.unreadable failure)
    | .ok text => return ofTexts file.settingsOrigin text environment

/-- A configuration whose paths are read from the directory of its file. -/
def relativeToFile (config : RunConfig) (file : Path) : RunConfig :=
  match file.parent? with
  | some base => config.resolvePaths base
  | none => config

/-- Load a configuration. -/
def load (name : Path) (environment : List (String × String)) : m (Except Error RunConfig) := do
  match ← readFrom name environment with
  | .error fault => return .error (.configLoad name fault)
  | .ok config =>
    let config := config.relativeToFile name
    return match config.validate with
    | .error fault => .error (.config fault)
    | .ok () => .ok config

end RunConfig

end TreeTypes
