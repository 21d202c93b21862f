import TreeTypes.CommandLine.Program
import TreeTypes.Text.Utf8

/-!
# Running the program on the disk

The operations on files are those of the system, and their failures are told apart by the codes that
the system gives. Everything else is decided by `TreeTypes.CommandLine.run`.
-/

namespace TreeTypes.Main

/-- The failure that a code of the system stands for. -/
def failureOfCode? (code : UInt32) : Option FileError :=
  let code := if code < 0x80000000 then code else 0 - code
  if code = 2 then some .notFound
  else if code = 16 then some .busy
  else if code = 17 then some .alreadyExists
  else if code = 20 then some .notDirectory
  else if code = 21 then some .isDirectory
  else if code = 22 then some .invalidArgument
  else if code = 36 then some .nameTooLong
  else if code = 39 then some .directoryNotEmpty
  else if code = 40 then some .tooManyLinks
  else none

/-- The code that an error of the system carries. -/
def codeOf : IO.Error → UInt32
  | .alreadyExists _ code _ | .otherError code _ | .resourceBusy code _
  | .resourceVanished code _ | .unsupportedOperation code _ | .hardwareFault code _
  | .unsatisfiedConstraints code _ | .illegalOperation code _ | .protocolError code _
  | .timeExpired code _ | .interrupted _ code _ | .noFileOrDirectory _ code _
  | .invalidArgument _ code _ | .permissionDenied _ code _ | .resourceExhausted _ code _
  | .inappropriateType _ code _ | .noSuchThing _ code _ => code
  | .unexpectedEof | .userError _ => 0

/-- The failure that an error of the system stands for. -/
def failureOf (error : IO.Error) : FileError :=
  (failureOfCode? (codeOf error)).getD (.other (toString error))

/-- Run an operation of the system on a path that it can be given. -/
def onPath {α : Type} (path : Path) (operation : IO α) : IO (Except FileError α) := do
  if path.text.toList.contains '\x00' then return .error .embeddedNul
  match ← operation.toBaseIO with
  | .ok value => return .ok value
  | .error error => return .error (failureOf error)

/-- The sort of an entry of the disk. -/
def kindOf : IO.FS.FileType → EntryKind
  | .file => .file
  | .symlink => .link
  | .dir => .directory
  | .other => .special

instance : FileAccess IO where
  entryKind followLast path := onPath path do
    let entry : IO.FS.DirEntry := ⟨path.text, ""⟩
    let found ← if followLast then entry.root.metadata else entry.root.symlinkMetadata
    return kindOf found.type
  readFile path := onPath path (IO.FS.readBinFile path.text)
  writeFile path content := onPath path (IO.FS.writeBinFile path.text content)
  createDirectory path := onPath path (IO.FS.createDir path.text)
  rename old new := onPath ⟨old.text ++ new.text⟩ (IO.FS.rename old.text new.text)
  removeFile path := onPath path (IO.FS.removeFile path.text)

/-- The variables in a block of texts that each end in the character zero. -/
def variablesOf (block : String) : List (String × String) :=
  (Text.split '\x00' block.toList).filterMap fun entry =>
    (Text.splitOnce '=' entry).map fun (name, value) => (String.ofList name, String.ofList value)

/-- The variables of the environment. -/
def environment : IO (List (String × String)) := do
  match ← (IO.FS.readBinFile "/proc/self/environ").toBaseIO with
  | .ok block => return variablesOf (Text.readable block)
  | .error _ => return []

end TreeTypes.Main

/-- Run the program. -/
def main (arguments : List String) : IO UInt32 := do
  let outcome ← TreeTypes.CommandLine.run arguments (← TreeTypes.Main.environment)
  IO.print outcome.output
  IO.eprint outcome.report
  return outcome.exitCode.toUInt32
