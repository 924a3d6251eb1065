import BlockAudit.Conventions
import BlockAudit.Text.UpperCase

/-!
# Names derived from a block's name

A block's name fixes the name of its class, of its global variable, of its style classes and of its
namespace. All of them come from the slug, the part of the name after the conventions' namespace; a
name of another namespace has the part after its last slash as its slug.
-/

namespace BlockAudit

/-- A block's name and its slug. -/
structure BlockName where
  identifier : Text
  slug : Text
  deriving DecidableEq

namespace BlockName

/-- The part of a text after its last slash; the whole text if it has none. -/
def lastSegment (s : Text) : Text := (s.reverse.takeWhile (· ≠ '/')).reverse

/-- The slug of a block's name under the conventions. -/
def slugOf (identifier : Text) (c : Conventions) : Text :=
  (Text.after? c.nameStart identifier).getD (lastSegment identifier)

/-- A block's name, read under the conventions. -/
def derive (identifier : Text) (c : Conventions) : BlockName :=
  ⟨identifier, slugOf identifier c⟩

/-- The name can stand between quotes in PHP without an escape. -/
def isLiteralSafe (name : BlockName) : Bool :=
  !name.identifier.isEmpty && name.identifier.all fun c => c ≠ '\'' ∧ c ≠ '"' ∧ c ≠ '\\'

/-- The parts of the slug between hyphens, empty ones left out. -/
def segments (name : BlockName) : List Text :=
  (Text.splitOn '-' name.slug).filter (fun part => !part.isEmpty)

/-- A word with its first character in upper case. -/
def capitalize : Text → Text
  | [] => []
  | c :: rest => Text.upperChar c ++ rest

/-- The segments, capitalized and run together. -/
def pascal (name : BlockName) : Text := name.segments.flatMap capitalize

/-- The class that holds the block's configuration. -/
def configClass (name : BlockName) (c : Conventions) : Text :=
  Text.joinWith ['_'] (Text.upper c.blockNamespace :: name.segments.map capitalize ++ [("Config" : Text)])

/-- The browser's global variable that holds the block's configuration. -/
def jsGlobal (name : BlockName) (c : Conventions) : Text :=
  "window." ++ c.blockNamespace ++ name.pascal ++ "Config"

/-- The block's style class. -/
def cssClass (name : BlockName) (c : Conventions) : Text := c.classStart ++ name.slug

/-- The block's PHP namespace. -/
def phpNamespace (name : BlockName) (c : Conventions) : Text := c.phpRoot ++ ['\\'] ++ name.pascal

/-- The handle of one of the block's assets. -/
def handle (name : BlockName) (c : Conventions) (suffix : Text) : Text :=
  name.cssClass c ++ ['-'] ++ suffix

end BlockName

end BlockAudit
