import BlockAudit.Text.Basic

/-!
# Code fences

A section's body may be wrapped in a Markdown code fence: a line that begins with three backquotes
and goes on with the language of the code, the code, and three closing backquotes.
-/

namespace BlockAudit

namespace Section

/-- The three backquotes that open and close a fenced body. -/
def fence : Text := "```"

/-- The code inside a fenced body, or the body itself; trimmed in both cases. A fence that is not
closed runs to the end. -/
def stripFence (body : Text) : Text :=
  match Text.after? fence (Text.trim body) with
  | none => Text.trim body
  | some opened =>
    let code := match Text.cut? ['\n'] opened with
      | some (_, code) => code
      | none => []
    Text.trim ((Text.before? fence (Text.trimEnd code)).getD code)

end Section

end BlockAudit
