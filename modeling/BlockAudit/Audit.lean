import BlockAudit.Fix
import BlockAudit.Report
import BlockAudit.Response
import BlockAudit.Rule
import BlockAudit.Section.Split
import BlockAudit.Settings
import BlockAudit.Trace

/-!
# Audits

An audit takes a response or a bundle through all stages: the sections are extracted, the metadata
read, the rules checked, the violations fixed and the rules checked again. A run ends with a bundle and
its report, or with an error, and leaves a trace in both cases.
-/

namespace BlockAudit

/-- How a response or a bundle is audited. -/
structure Audit where
  conventions : Conventions := {}
  policy : Policy := .warn
  stripFences : Bool := true
  /-- The bundle is fixed, and not only checked. -/
  applyFixes : Bool := true
  deriving DecidableEq

/-- The bundle at the end of a run, and the report of how it came about. -/
structure Outcome where
  bundle : Bundle
  report : Report
  deriving DecidableEq

/-- The result of a run and the events in it. -/
structure Run where
  result : Except Error Outcome
  events : List Event

/-- The run with events before its own. -/
def Run.after (run : Run) (events : List Event) : Run := { run with events := events ++ run.events }

namespace Audit

/-- The audit that the settings ask for. -/
def ofSettings (s : Settings) : Audit :=
  { conventions := s.conventions, policy := s.policy, stripFences := s.stripFences }

/-- The bundle after the fix, if the audit fixes at all. -/
def fixed (a : Audit) (b : Bundle) : Fixed :=
  if a.applyFixes then b.fix a.conventions else ⟨b, []⟩

/-- The outcome of checking, fixing and checking again a bundle that was read from `input`. -/
def outcome (a : Audit) (now : Timestamp) (b : Bundle) (input : Text) : Outcome :=
  let fixed := a.fixed b
  ⟨fixed.bundle, .ofRun now fixed.bundle.identifier input (b.violations a.conventions)
    fixed.applied (fixed.bundle.violations a.conventions)⟩

/-- The events of checking, fixing and checking again. -/
def checkEvents (a : Audit) (b : Bundle) : List Event :=
  let fixed := a.fixed b
  Event.ofPass .validate (b.violations a.conventions) ++ [.entered .validated] ++
    Event.ofFix fixed.applied ++ [.entered .fixed] ++
    Event.ofPass .revalidate (fixed.bundle.violations a.conventions) ++
    [.entered .revalidated, .entered .done]

/-- An outcome, unless violations are left under the strict policy. -/
def judge (a : Audit) (outcome : Outcome) : Except Error Outcome :=
  if a.policy = .strict ∧ !outcome.report.passed then
    .error (.notCompliant outcome.report.remaining)
  else .ok outcome

/-- Checks and fixes a bundle that was read from `input`. -/
def check (a : Audit) (now : Timestamp) (b : Bundle) (input : Text) : Run :=
  ⟨a.judge (a.outcome now b input), a.checkEvents b⟩

/-- Audits a bundle. Its composed response counts as the input. -/
def runBundle (a : Audit) (now : Timestamp) (b : Bundle) : Run := a.check now b (Response.compose b)

/-- Audits a response. -/
def run (a : Audit) (now : Timestamp) (response : Text) : Run :=
  match Response.draft a.stripFences response with
  | .error e => ⟨.error e, []⟩
  | .ok draft =>
    let extracted := (Section.repeated response).map .repeatedSection ++ [.entered .extracted]
    match draft.assemble with
    | .error e => ⟨.error e, extracted⟩
    | .ok b => (a.check now b response).after (extracted ++ [.entered .parsed])

end Audit

end BlockAudit
