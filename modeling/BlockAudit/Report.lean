import BlockAudit.Digest
import BlockAudit.Fix.Step
import BlockAudit.Json.Printer
import BlockAudit.Timestamp
import BlockAudit.Violation

/-!
# Reports

A report records one run: the violations before the fix, the steps that were applied, and the
violations after it. It is printed as JSON for other programs and as text for people; the text leaves
the time out, so that it is the same for every run on the same input.
-/

namespace BlockAudit

/-- The version of the program, which reports name. -/
def programVersion : Text := "0.1.0"

/-- The outcome of a run. -/
inductive Status
  /-- No violation was found at all. -/
  | clean
  /-- The fix left no violation. -/
  | fixed
  /-- Violations are left. -/
  | failed
  deriving DecidableEq, Repr

namespace Status

/-- The three outcomes. -/
def all : List Status := [clean, fixed, failed]

/-- The name of an outcome. -/
def name : Status → Text
  | clean => "clean"
  | fixed => "fixed"
  | failed => "failed"

/-- The outcome with the given name. -/
def ofName? (name : Text) : Option Status := all.find? (·.name == name)

/-- The outcome of a run with these violations before and after the fix. -/
def judge (before after : List Violation) : Status :=
  if !after.isEmpty then failed else if before.isEmpty then clean else fixed

end Status

/-- The record of one run. -/
structure Report where
  /-- The name of the block; empty when it has none. -/
  block : Text
  /-- The digest of the input. -/
  inputDigest : Text
  generatedAt : Timestamp
  status : Status
  before : List Violation
  fixes : List AppliedFix
  after : List Violation
  /-- The version of the program that made the report. -/
  toolVersion : Text
  deriving DecidableEq

namespace Report

/-- The report of a run on `input`. -/
def ofRun (now : Timestamp) (block input : Text) (before : List Violation)
    (fixes : List AppliedFix) (after : List Violation) : Report where
  block := block
  inputDigest := digest input
  generatedAt := now
  status := Status.judge before after
  before := before
  fixes := fixes
  after := after
  toolVersion := programVersion

/-- No violation is left. -/
def passed (r : Report) : Bool := r.after.isEmpty

/-- The messages of the violations that are left. -/
def remaining (r : Report) : List Text := r.after.map Violation.message

/-- A violation as a JSON value. -/
def violationJson (v : Violation) : Json :=
  .object [("code", .string v.code), ("section", .string v.file.fileName),
    ("message", .string v.message)]

/-- An applied step as a JSON value. -/
def fixJson (fix : AppliedFix) : Json :=
  .object [("step", .string fix.step.name), ("description", .string fix.description)]

/-- The report as a JSON value. -/
def toJson (r : Report) : Json :=
  .object [
    ("block", .string r.block),
    ("input_digest", .string r.inputDigest),
    ("generated_at", .string r.generatedAt.toText),
    ("status", .string r.status.name),
    ("before", .array (r.before.map violationJson)),
    ("fixes", .array (r.fixes.map fixJson)),
    ("after", .array (r.after.map violationJson)),
    ("tool_version", .string r.toolVersion)]

/-- The report as a JSON document. -/
def jsonText (r : Report) : Text := Json.print r.toJson

/-- The line of a violation. -/
def violationLine (v : Violation) : Text :=
  "  [" ++ v.code ++ "] " ++ v.file.fileName ++ ": " ++ v.message ++ ['\n']

/-- The line of an applied step. -/
def fixLine (fix : AppliedFix) : Text :=
  "  " ++ Text.ofNat fix.step.number ++ ". " ++ fix.description ++ ['\n']

/-- The number of violations and a line for each. -/
def violationLines (violations : List Violation) : Text :=
  Text.ofNat violations.length ++ " violation(s)\n" ++ violations.flatMap violationLine

/-- The report as text. -/
def text (r : Report) : Text :=
  "Compliance report for " ++ (if r.block.isEmpty then ("(unnamed block)" : Text) else r.block) ++
    "\nInput: sha256:" ++ r.inputDigest ++ "\nStatus: " ++ r.status.name ++
    "\n\nBefore auto-fix: " ++ violationLines r.before ++
    "\nAuto-fix: " ++ Text.ofNat r.fixes.length ++ " change(s)\n" ++ r.fixes.flatMap fixLine ++
    "\nAfter auto-fix: " ++ violationLines r.after

end Report

end BlockAudit
