import BlockAudit.Conventions

/-!
# Settings

What a site can set: its naming conventions, what happens to violations that are left after the fix,
and whether code fences are stripped.
-/

namespace BlockAudit

/-- What happens when violations are left after the fix. -/
inductive Policy
  /-- They are reported. -/
  | warn
  /-- They fail the run. -/
  | strict
  deriving DecidableEq, Repr

namespace Policy

/-- The name of a policy in the settings. -/
def name : Policy → Text
  | warn => "warn"
  | strict => "strict"

/-- The policy with the given name. -/
def ofName? (name : Text) : Option Policy := [warn, strict].find? (·.name == name)

end Policy

/-- The settings of a site. -/
structure Settings where
  /-- The version of the settings' form. -/
  version : UInt32 := 1
  conventions : Conventions := {}
  policy : Policy := .warn
  /-- Markdown code fences around the sections of a response are stripped. -/
  stripFences : Bool := true
  deriving DecidableEq

end BlockAudit
