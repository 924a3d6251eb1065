import BlockAudit.Json.Outline
import BlockAudit.Report

/-!
# Reading reports

A report is read back from JSON. All of its fields must be there, once each; other fields are passed
over. A record may also be written as the array of its fields' values in their order, and a name of a
status, a file or a step as an object with that name as its only key and null as its value.
-/

namespace BlockAudit

namespace Report

open Json (Outline)

/-- A field of a record: its value, which must be there once. -/
def fieldOnce? (fields : List (Text × Outline)) (key : Text) : Option Outline :=
  match fields.filter (fun field => field.1 == key) with
  | [(_, value)] => some value
  | _ => none

/-- The fields with their keys, if every key has a meaning. -/
def meaningfulFields? (fields : List (Option Text × Outline)) : Option (List (Text × Outline)) :=
  fields.mapM fun (key, value) => key.map (·, value)

/-- The values of a record's fields in the order of `keys`. -/
def recordValues? (keys : List Text) : Outline → Option (List Outline)
  | .array values => if values.length = keys.length then some values else none
  | .object fields => do keys.mapM (fieldOnce? (← meaningfulFields? fields))
  | _ => none

/-- The text of a string. -/
def stringOf? : Outline → Option Text
  | .string s => some s
  | _ => none

/-- A name out of a fixed set. -/
def namedOf? {α : Type} (ofName? : Text → Option α) : Outline → Option α
  | .string s => ofName? s
  | .object [(some s, .null)] => ofName? s
  | _ => none

/-- The members of a list. -/
def listOf? {α : Type} (member? : Outline → Option α) : Outline → Option (List α)
  | .array items => items.mapM member?
  | _ => none

/-- A violation. -/
def violationOf? (value : Outline) : Option Violation := do
  match ← recordValues? ["code", "section", "message"] value with
  | [code, file, message] =>
    return ⟨← stringOf? code, ← namedOf? BlockFile.ofFileName? file, ← stringOf? message⟩
  | _ => none

/-- An applied step. -/
def fixOf? (value : Outline) : Option AppliedFix := do
  match ← recordValues? ["step", "description"] value with
  | [step, description] => return ⟨← namedOf? FixStep.ofName? step, ← stringOf? description⟩
  | _ => none

/-- The keys of a report. -/
def keys : List Text :=
  ["block", "input_digest", "generated_at", "status", "before", "fixes", "after", "tool_version"]

/-- A report. -/
def ofOutline? (value : Outline) : Option Report := do
  match ← recordValues? keys value with
  | [block, inputDigest, generatedAt, status, before, fixes, after, toolVersion] =>
    return {
      block := ← stringOf? block
      inputDigest := ← stringOf? inputDigest
      generatedAt := ← Timestamp.parse? (← stringOf? generatedAt)
      status := ← namedOf? Status.ofName? status
      before := ← listOf? violationOf? before
      fixes := ← listOf? fixOf? fixes
      after := ← listOf? violationOf? after
      toolVersion := ← stringOf? toolVersion }
  | _ => none

/-- The report of a JSON document. -/
def parse? (text : Text) : Option Report := (Outline.parse? text).bind ofOutline?

end Report

end BlockAudit
