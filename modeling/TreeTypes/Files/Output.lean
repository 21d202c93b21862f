import TreeTypes.Files.Access

/-!
# Writing outputs all or nothing

Every changed output is first staged beside its destination. Only when all are staged are the
destinations replaced, each previous file being moved aside to a backup beside it. If a replacement
fails, the replacements already made are undone, the latest first, and the staged files that are
left are removed; the backups of a commit that succeeds are removed at its end.
-/

namespace TreeTypes

/-- A text and the path that is to hold it. -/
structure Output where
  path : Path
  text : String
  deriving DecidableEq, Repr

/-- What happened to an output. -/
inductive WriteStatus where
  | written
  /-- The file held the text already and was left alone. -/
  | unchanged
  deriving DecidableEq, Repr

/-- An output that could not be written. -/
structure WriteFailure where
  path : Path
  cause : FileError
  deriving DecidableEq, Repr

/-- The wording of the failure. -/
def WriteFailure.message (failure : WriteFailure) : String :=
  "failed to write " ++ failure.path.text ++ ": " ++ failure.cause.message

/-- A destination that could not be restored after a replacement failed. -/
structure Unrestored where
  path : Path
  cause : FileError
  deriving DecidableEq, Repr

/-- A staged file that waits to replace its destination. -/
structure Staged where
  staging : Path
  destination : Path
  deriving DecidableEq, Repr

/-- A destination that was replaced, with the previous file if there was one. -/
structure Replaced where
  destination : Path
  backup : Option Path
  deriving DecidableEq, Repr

/-- How an attempt to write outputs ended. -/
structure WriteReport where
  result : Except WriteFailure (List (Path × WriteStatus))
  unrestored : List Unrestored := []

namespace Output

/-- The suffix of a staged file. -/
def stagingSuffix : String := "astgen-tmp"

/-- The suffix of a file that was moved aside. -/
def backupSuffix : String := "astgen-bak"

/-- The path of the staged file for a destination. -/
def stagingPath (destination : Path) : Path := destination.sibling stagingSuffix

/-- The path of the backup of a destination. -/
def backupPath (destination : Path) : Path := destination.sibling backupSuffix

variable {m : Type → Type} [Monad m] [FileAccess m]

open FileAccess

/-- Whether a path leads to a file that holds exactly this text. -/
def isUpToDate (path : Path) (text : String) : m Bool := do
  match ← readText path with
  | .ok existing => return existing == text
  | .error _ => return false

/-- Check that a destination is free or a regular file. -/
def checkDestination (path : Path) : m (Except FileError Unit) := do
  match ← entryKind false path with
  | .ok .file => return .ok ()
  | .ok _ => return .error .notRegular
  | .error .notFound => return .ok ()
  | .error failure => return .error failure

/-- Create the directories that a path lies in. -/
def ensureParent (path : Path) : m (Except FileError Unit) :=
  match path.parent? with
  | none => return .ok ()
  | some parent => if parent.text.isEmpty then return .ok () else ensureDirectories parent

/-- Write a text beside its destination. -/
def stage (path : Path) (text : String) : m (Except FileError Staged) := do
  match ← checkDestination path with
  | .error failure => return .error failure
  | .ok () =>
    match ← ensureParent path with
    | .error failure => return .error failure
    | .ok () =>
      match ← writeText (stagingPath path) text with
      | .error failure => return .error failure
      | .ok () => return .ok ⟨stagingPath path, path⟩

/-- Remove staged files, as far as they are there. -/
def discard : List Staged → m Unit
  | [] => return ()
  | entry :: rest => do
    let _ ← removeFile entry.staging
    discard rest

/-- Stage the outputs that are not up to date. `staged` holds the files staged before; they are
removed when an output cannot be staged. -/
def stageAll (staged : List Staged) :
    List Output → m (Except WriteFailure (List Staged × List (Path × WriteStatus)))
  | [] => return .ok (staged, [])
  | output :: rest => do
    if ← isUpToDate output.path output.text then
      let result ← stageAll staged rest
      return result.map fun (all, statuses) => (all, (output.path, .unchanged) :: statuses)
    else
      match ← stage output.path output.text with
      | .error failure =>
        discard staged
        return .error ⟨output.path, failure⟩
      | .ok entry =>
        let result ← stageAll (staged ++ [entry]) rest
        return result.map fun (all, statuses) => (all, (output.path, .written) :: statuses)

/-- Move the file at a destination aside, if there is one. -/
def moveAside (destination : Path) : m (Except FileError (Option Path)) := do
  if ← pathExists destination then
    match ← rename destination (backupPath destination) with
    | .error failure => return .error failure
    | .ok () => return .ok (some (backupPath destination))
  else return .ok none

/-- Put a staged file into place. When that fails the previous file is moved back. -/
def replace (entry : Staged) : m (Except FileError Replaced) := do
  match ← moveAside entry.destination with
  | .error failure => return .error failure
  | .ok backup =>
    match ← rename entry.staging entry.destination with
    | .ok () => return .ok ⟨entry.destination, backup⟩
    | .error failure =>
      match backup with
      | some path => let _ ← rename path entry.destination
      | none => pure ()
      return .error failure

/-- Undo one replacement. -/
def restore (done : Replaced) : m (Except FileError Unit) :=
  match done.backup with
  | some backup => rename backup done.destination
  | none => removeFile done.destination

/-- Undo replacements in the given order and collect those that cannot be undone. -/
def rollback : List Replaced → m (List Unrestored)
  | [] => return []
  | done :: rest => do
    let restored ← restore done
    let unrestored ← rollback rest
    match restored with
    | .ok () => return unrestored
    | .error failure => return ⟨done.destination, failure⟩ :: unrestored

/-- Remove the backups of replacements. -/
def dropBackups : List Replaced → m Unit
  | [] => return ()
  | done :: rest => do
    match done.backup with
    | some backup => let _ ← removeFile backup
    | none => pure ()
    dropBackups rest

/-- Put staged files into place. `replaced` holds the replacements made before, the latest first. -/
def commit (replaced : List Replaced) :
    List Staged → m (Except WriteFailure Unit × List Unrestored)
  | [] => do
    dropBackups replaced.reverse
    return (.ok (), [])
  | entry :: rest => do
    match ← replace entry with
    | .ok done => commit (done :: replaced) rest
    | .error failure =>
      let unrestored ← rollback replaced
      discard (entry :: rest)
      return (.error ⟨entry.destination, failure⟩, unrestored)

/-- Write all outputs or none. -/
def writeAll (outputs : List Output) : m WriteReport := do
  match ← stageAll [] outputs with
  | .error failure => return { result := .error failure }
  | .ok (staged, statuses) =>
    let (committed, unrestored) ← commit [] staged
    return { result := committed.map fun () => statuses, unrestored }

end Output

end TreeTypes
