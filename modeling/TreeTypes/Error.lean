import TreeTypes.Files.Output
import TreeTypes.Run.Config
import TreeTypes.Schema
import TreeTypes.Settings.Decode

/-!
# Errors of a run

Everything that can go wrong between a configuration and the written outputs, each error with the
data it is about. The wording is a function of the error and is used nowhere else.
-/

namespace TreeTypes

/-- Why a configuration file could not be loaded. -/
inductive LoadFault where
  | missing (name : Path)
  | unreadable (cause : FileError)
  | notToml
  /-- The file holds something that is no table. -/
  | notTable (found origin : String)
  | undecodable (cause : DecodeError)
  deriving DecidableEq, Repr

/-- The wording of a fault. -/
def LoadFault.message : LoadFault → String
  | missing name => "configuration file \"" ++ name.text ++ "\" not found"
  | unreadable cause => cause.message
  | notToml => "TOML parse error"
  | notTable found origin =>
    "invalid type: " ++ found ++ ", expected a map in " ++ origin ++ " in " ++ origin
  | undecodable cause => cause.message

/-- An error of a run. -/
inductive Error where
  | malformedVariant (rejection : Rejection)
  | unresolvedType (unresolved : UnresolvedType)
  | schemaLoad (error : SchemaError)
  | unknownFamily (name : String)
  | configLoad (path : Path) (fault : LoadFault)
  | config (fault : ConfigFault)
  | write (failure : WriteFailure)
  deriving DecidableEq, Repr

/-- The wording of an error. -/
def Error.message : Error → String
  | malformedVariant rejection => rejection.message
  | unresolvedType unresolved => unresolved.message
  | schemaLoad error => error.message
  | unknownFamily name => "family '" ++ name ++ "' is not declared in the schema"
  | configLoad path fault => "invalid configuration: " ++ path.text ++ ": " ++ fault.message
  | config fault => "invalid configuration: " ++ fault.message
  | write failure => failure.message

end TreeTypes
