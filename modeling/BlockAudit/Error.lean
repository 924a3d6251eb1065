import BlockAudit.BlockFile
import BlockAudit.Text.Quoted

/-!
# Errors

The reasons for which reading a response, a block's directory or the settings fails, and for which a
strict run is refused. Each has one wording.
-/

namespace BlockAudit

/-- A computation succeeds when its first part does and what it goes on with does. -/
theorem bind_eq_ok_iff {ε α β : Type} {x : Except ε α} {f : α → Except ε β} {r : β} :
    (x >>= f) = .ok r ↔ ∃ a, x = .ok a ∧ f a = .ok r := by
  cases x with
  | error e => simp [bind, Except.bind]
  | ok a => simp [bind, Except.bind]

theorem mapError_eq_ok_iff {ε ε' α : Type} {x : Except ε α} {f : ε → ε'} {r : α} :
    x.mapError f = .ok r ↔ x = .ok r := by
  cases x with
  | error e =>
    constructor
    · intro h
      cases h
    · intro h
      cases h
  | ok a =>
    have hsame : (Except.ok a : Except ε α).mapError f = .ok a := rfl
    rw [hsame, Except.ok.injEq, Except.ok.injEq]

/-- The reasons for which a disk does not take what is written to it. -/
inductive DiskError
  | permissionDenied
  | deviceFailed
  | fileTooLarge
  | full
  | readOnly
  | quotaExceeded
  deriving DecidableEq, Repr

/-- The wording of a failure of the disk. -/
def DiskError.message : DiskError → Text
  | .permissionDenied => "Permission denied (os error 13)"
  | .deviceFailed => "Input/output error (os error 5)"
  | .fileTooLarge => "File too large (os error 27)"
  | .full => "No space left on device (os error 28)"
  | .readOnly => "Read-only file system (os error 30)"
  | .quotaExceeded => "Disk quota exceeded (os error 122)"

/-- The reasons for which an operation on a file or a directory fails. -/
inductive FileError
  | notFound
  | alreadyExists
  | notDirectory
  | isDirectory
  | nameTooLong
  /-- A path with the character U+0000 in it. -/
  | nulInPath
  /-- A file read as text whose bytes are not UTF-8. -/
  | notText
  /-- A path that leads where it should, on a disk that fails. -/
  | disk (cause : DiskError)
  deriving DecidableEq, Repr

/-- The wording of a failed operation on a file. -/
def FileError.message : FileError → Text
  | .notFound => "No such file or directory (os error 2)"
  | .alreadyExists => "File exists (os error 17)"
  | .notDirectory => "Not a directory (os error 20)"
  | .isDirectory => "Is a directory (os error 21)"
  | .nameTooLong => "File name too long (os error 36)"
  | .nulInPath => "file name contained an unexpected NUL byte"
  | .notText => "stream did not contain valid UTF-8"
  | .disk cause => cause.message

/-- The name of the file that holds the settings. -/
def settingsFile : Text := ".cmblocks.yaml"

/-- The reasons for which the library refuses its input. -/
inductive Error
  /-- A response has no section for a file. -/
  | sectionMissing (file : BlockFile)
  /-- A block's metadata are not JSON. -/
  | metadataMalformed
  /-- A block's metadata are JSON of another kind than an object. -/
  | metadataNotObject (kind : Text)
  /-- Violations are left in a strict run. -/
  | notCompliant (messages : List Text)
  /-- The settings cannot be read. -/
  | settingsMalformed
  /-- The settings are of a version that is not known. -/
  | settingsVersion (version : UInt32)
  /-- A file operation failed. -/
  | fileFailed (cause : FileError)
  /-- A file could not be read as text. -/
  | unreadable (path : Text) (cause : FileError)
  /-- A block without a name has no directory. -/
  | nameMissing
  /-- A block's name cannot be the name of a directory. -/
  | nameNotDirectory (identifier : Text)
  deriving DecidableEq

/-- The wording of an error. -/
def Error.message : Error → Text
  | .sectionMissing file => file.marker ++ " not found"
  | .metadataMalformed => "Failed to parse BLOCK_JSON: not a JSON document"
  | .metadataNotObject kind => "BLOCK_JSON must be a JSON object, found " ++ kind
  | .notCompliant messages =>
    Text.ofNat messages.length ++ " compliance violation(s) remain after auto-fix: " ++
      Text.joinWith "; " messages
  | .settingsMalformed =>
    "Config error: Failed to parse " ++ settingsFile ++ ": not a settings document"
  | .settingsVersion version =>
    "Config error: Unsupported " ++ settingsFile ++ " version: " ++ Text.ofNat version.toNat
  | .fileFailed cause => "IO error: " ++ cause.message
  | .unreadable path cause => "Failed to read " ++ path ++ ": " ++ cause.message
  | .nameMissing => "Cannot write bundle without a block name"
  | .nameNotDirectory identifier =>
    "Block name " ++ Text.quote identifier ++ " is not a valid directory name"

end BlockAudit
