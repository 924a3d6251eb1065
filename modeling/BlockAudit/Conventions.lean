import BlockAudit.Text.Basic

/-!
# Naming conventions

The names that a site prescribes for its blocks. Every rule and every fix reads them from here.
-/

namespace BlockAudit

/-- The naming conventions that blocks must follow. -/
structure Conventions where
  /-- The namespace of block names, without the slash after it. -/
  blockNamespace : Text := "cm"
  /-- What a block's title starts with. -/
  titleStart : Text := "CM "
  /-- The category of every block. -/
  category : Text := "cm-blocks"
  /-- The keyword that leads a block's keywords. -/
  keyword : Text := "cm"
  /-- What CSS classes start with, without the dot. -/
  classStart : Text := "cm-"
  /-- The root of the PHP namespaces of render callbacks. -/
  phpRoot : Text := "CompuMatter\\Blocks"
  /-- The directory of a theme that holds the directories of the blocks. -/
  blocksDir : Text := "cm-blocks"
  deriving DecidableEq

namespace Conventions

/-- What the name of every block starts with. -/
def nameStart (c : Conventions) : Text := c.blockNamespace ++ ['/']

/-- What the selector of every class starts with. -/
def selectorStart (c : Conventions) : Text := '.' :: c.classStart

end Conventions

end BlockAudit
