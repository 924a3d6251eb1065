import BlockAudit.BlockFile

/-!
# Violations

A violation says which rule a block breaks, in which of its files, and in which words this is
reported.
-/

namespace BlockAudit

/-- A rule that is broken. -/
structure Violation where
  code : Text
  file : BlockFile
  message : Text
  deriving DecidableEq

namespace Violation

/-- The code in brackets and the message. -/
def display (v : Violation) : Text := ['['] ++ v.code ++ "] " ++ v.message

end Violation

end BlockAudit
