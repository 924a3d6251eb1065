import BlockAudit.FileTree
import BlockAudit.Bundle

/-!
# Blocks on disk

A block is stored as its seven files in one directory. It can be written into a directory, or into a
new directory below a root that is named for the block, and read back.
-/

namespace BlockAudit

namespace Bundle

/-- Writes the texts of some of the files into a directory, in order, up to the first failure. -/
def writeTexts (b : Bundle) (dir : Text) (disk : Disk) (t : FileTree) :
    List BlockFile → FileTree × Except Error Unit
  | [] => (t, .ok ())
  | file :: files =>
    match t.store disk (Path.join dir file.fileName) (Text.toUtf8 (b.text file)) with
    | (left, .error e) => (left, .error (.fileFailed e))
    | (written, .ok ()) => b.writeTexts dir disk written files

/-- Writes the seven files into a directory, which is made if it is missing. -/
def writeFiles (b : Bundle) (dir : Text) (t : FileTree) (disk : Disk := {}) :
    FileTree × Except Error Unit :=
  match t.ensureDirectory dir disk with
  | (made, .error e) => (made, .error (.fileFailed e))
  | (made, .ok ()) => b.writeTexts dir disk made BlockFile.all

/-- The name of the directory of a block: the block's name with hyphens in the place of slashes. It must
name one directory and nothing else. -/
def directoryName (b : Bundle) : Except Error Text :=
  let name := b.identifier.map fun c => if c = '/' then '-' else c
  if name.isEmpty then .error .nameMissing
  else if name = Path.here ∨ name = Path.above ∨ name.contains '\\' then
    .error (.nameNotDirectory b.identifier)
  else .ok name

/-- Writes the seven files into the block's own directory below a root; the directory's path is the
answer. -/
def writeBelow (b : Bundle) (root : Text) (t : FileTree) (disk : Disk := {}) :
    FileTree × Except Error Text :=
  match b.directoryName with
  | .error e => (t, .error e)
  | .ok name =>
    let dir := Path.join root name
    let (written, result) := b.writeFiles dir t disk
    (written, result.map fun () => dir)

/-- The text of one of the files of a directory. -/
def readFile (t : FileTree) (dir : Text) (file : BlockFile) : Except Error Text :=
  let path := Path.join dir file.fileName
  (t.readText path).mapError (.unreadable path)

/-- Reads the seven files of a directory. -/
def load (t : FileTree) (dir : Text) : Except Error Bundle := do
  let metadata ← parseMetadata (← readFile t dir .metadata)
  let config ← readFile t dir .config
  let registration ← readFile t dir .registration
  let render ← readFile t dir .render
  let editorScript ← readFile t dir .editorScript
  let sharedScript ← readFile t dir .sharedScript
  let style ← readFile t dir .style
  return { metadata, config, registration, render, editorScript, sharedScript, style }

end Bundle

end BlockAudit
