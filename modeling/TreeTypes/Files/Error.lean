/-!
# Failures of file operations

The failures that an operation on files can end with, worded as the operating system words them.
-/

namespace TreeTypes

/-- Why an operation on files failed. -/
inductive FileError where
  | notFound
  | busy
  | alreadyExists
  | notDirectory
  | isDirectory
  | invalidArgument
  | nameTooLong
  | directoryNotEmpty
  | tooManyLinks
  /-- A path holds the character that ends paths. -/
  | embeddedNul
  /-- The content was read as text and is none. -/
  | notUtf8
  /-- An output would replace something other than a regular file. -/
  | notRegular
  /-- A failure of another kind, with the wording that the system gave it. -/
  | other (wording : String)
  deriving DecidableEq, Repr

/-- The wording of a failure. -/
def FileError.message : FileError → String
  | notFound => "No such file or directory (os error 2)"
  | busy => "Device or resource busy (os error 16)"
  | alreadyExists => "File exists (os error 17)"
  | notDirectory => "Not a directory (os error 20)"
  | isDirectory => "Is a directory (os error 21)"
  | invalidArgument => "Invalid argument (os error 22)"
  | nameTooLong => "File name too long (os error 36)"
  | directoryNotEmpty => "Directory not empty (os error 39)"
  | tooManyLinks => "Too many levels of symbolic links (os error 40)"
  | embeddedNul => "file name contained an unexpected NUL byte"
  | notUtf8 => "stream did not contain valid UTF-8"
  | notRegular => "destination exists and is not a regular file"
  | other wording => wording

end TreeTypes
