import BlockAudit.FileTree
import BlockAudit.Settings.Printer
import BlockAudit.Settings.Reader

/-!
# Settings on disk

The settings of a site are in a file of a fixed name in its directory.
-/

namespace BlockAudit

namespace Settings

/-- The settings of a directory; none if it has no file of that name. -/
def load? (t : FileTree) (dir : Text) : Except Error (Option Settings) := do
  let path := Path.join dir settingsFile
  if t.pathExists path then
    let text ← (t.readText path).mapError .fileFailed
    return some (← parse text)
  else return none

/-- The settings of a directory, or the default ones. -/
def loadOrDefault (t : FileTree) (dir : Text) : Except Error Settings :=
  (load? t dir).map (·.getD {})

end Settings

end BlockAudit
