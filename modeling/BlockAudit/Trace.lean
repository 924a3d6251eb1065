import BlockAudit.Fix.Step
import BlockAudit.Violation

/-!
# Traces

A run leaves a trace of events: which stages it entered, what it found and which steps of the fix it
applied. Each event has a level, a target, a message and named fields in which it is logged.
-/

namespace BlockAudit

/-- The stages that a run enters, in order. -/
inductive Stage
  | extracted
  | parsed
  | validated
  | fixed
  | revalidated
  | done
  deriving DecidableEq, Repr

namespace Stage

/-- The stages in order. -/
def all : List Stage := [extracted, parsed, validated, fixed, revalidated, done]

/-- The name of a stage. -/
def name : Stage → Text
  | extracted => "extracted"
  | parsed => "parsed"
  | validated => "validated"
  | fixed => "fixed"
  | revalidated => "revalidated"
  | done => "done"

end Stage

/-- The two passes over the rules. -/
inductive Pass
  /-- The pass before the fix. -/
  | validate
  /-- The pass after the fix. -/
  | revalidate
  deriving DecidableEq, Repr

/-- The name of a pass. -/
def Pass.name : Pass → Text
  | .validate => "validate"
  | .revalidate => "revalidate"

/-- The importance of an event. -/
inductive Level
  | debug
  | info
  | warn
  deriving DecidableEq, Repr

/-- The name of a level. -/
def Level.name : Level → Text
  | .debug => "DEBUG"
  | .info => "INFO"
  | .warn => "WARN"

/-- Something that happens in a run. -/
inductive Event
  /-- A response has more than one section for a file. -/
  | repeatedSection (file : BlockFile)
  /-- The run enters a stage. -/
  | entered (stage : Stage)
  /-- A pass finds no violation. -/
  | nothingFound (pass : Pass)
  /-- A pass finds a violation. -/
  | found (pass : Pass) (violation : Violation)
  /-- A step of the fix changes the bundle. -/
  | stepApplied (fix : AppliedFix)
  /-- The fix is over; it applied this number of steps. -/
  | fixesApplied (count : Nat)
  deriving DecidableEq

namespace Event

def level : Event → Level
  | repeatedSection _ | found _ _ => .warn
  | entered _ | stepApplied _ => .debug
  | nothingFound _ | fixesApplied _ => .info

/-- The part of the program that logs the event. -/
def target : Event → Text
  | repeatedSection _ | entered _ | fixesApplied _ => "cmblocks::pipeline"
  | nothingFound _ | found _ _ => "cmblocks::compliance"
  | stepApplied _ => "cmblocks::compliance::fix"

/-- The words in which the event is logged. -/
def message : Event → Text
  | repeatedSection _ => "section appears more than once; using the first occurrence"
  | entered _ => "pipeline stage"
  | nothingFound _ => "no SSOT violations"
  | found _ violation => violation.message
  | stepApplied fix => fix.description
  | fixesApplied _ => "applied auto-fixes"

/-- The named values that are logged with the event. -/
def fields : Event → List (Text × Text)
  | repeatedSection file => [("section", file.marker)]
  | entered stage => [("stage", stage.name)]
  | nothingFound pass => [("stage", pass.name)]
  | found pass violation =>
    [("stage", pass.name), ("code", violation.code), ("section", violation.file.fileName)]
  | stepApplied fix => [("step", Text.ofNat fix.step.number)]
  | fixesApplied count => [("fixes", Text.ofNat count)]

/-- The events of a pass: one for each violation, or one that says that there is none. -/
def ofPass (pass : Pass) (violations : List Violation) : List Event :=
  if violations.isEmpty then [nothingFound pass] else violations.map (found pass)

/-- The events of the fix: one for each step, and their number if there are any. -/
def ofFix (applied : List AppliedFix) : List Event :=
  if applied.isEmpty then [] else applied.map stepApplied ++ [fixesApplied applied.length]

end Event

end BlockAudit
