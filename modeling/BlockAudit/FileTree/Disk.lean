import BlockAudit.FileTree.Path

/-!
# Disks

Whatever a file tree looks like, the disk that it is kept on may fail while a program writes. It may
refuse to make a directory or to open a file, and it may open a file and take only the first bytes of
what is written to it. A program opens each of its paths once, so what the disk does with a path need not
depend on what was written before.
-/

namespace BlockAudit

/-- The failures of a disk: none, unless they are given. -/
structure Disk where
  /-- The reason for which the directory of a route is not made. -/
  refusesDirectory? : Route → Option DiskError := fun _ => none
  /-- The reason for which the file of a path is not opened. -/
  refusesFile? : Text → Option DiskError := fun _ => none
  /-- The number of bytes that the file of a path takes, and the reason for which it takes no more. -/
  limit? : Text → Option (Nat × DiskError) := fun _ => none

namespace Disk

/-- The bytes of a content that the file of a path takes, and the failure if there are more. -/
def take (disk : Disk) (path : Text) (content : ByteArray) : ByteArray × Except FileError Unit :=
  match disk.limit? path with
  | none => (content, .ok ())
  | some (room, cause) =>
    if room < content.size then (content.extract 0 room, .error (.disk cause))
    else (content, .ok ())

end Disk

end BlockAudit
