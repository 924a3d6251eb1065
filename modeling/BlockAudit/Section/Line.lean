import BlockAudit.BlockFile

/-!
# Lines of a response

A response is cut into sections by sentinel lines: three hyphens, alone or followed by the name of
the section that begins. Every other line belongs to a section's body or to the text around it.
-/

namespace BlockAudit

namespace Section

/-- The hyphens that a sentinel line begins with. -/
def sentinel : Text := "---"

/-- What one line of a response stands for. -/
inductive Line
  /-- A sentinel alone; the name of the section follows on a later line, if any does. -/
  | bare
  /-- A sentinel and the name of a section. -/
  | named (name : Text)
  /-- Any other line. -/
  | plain
  deriving DecidableEq

/-- Reads one line, with or without its ending. White space around the line does not matter; a
name may follow the hyphens without a gap only when it is the marker of a file. -/
def Line.ofText (line : Text) : Line :=
  match Text.after? sentinel (Text.trim line) with
  | none => .plain
  | some [] => .bare
  | some (c :: rest) =>
    if Text.isBlank c then .named (Text.trim rest)
    else if (BlockFile.ofMarker? (c :: rest)).isSome then .named (c :: rest)
    else .plain

/-- The line delimits sections. -/
def isDelimiter (line : Text) : Bool := Line.ofText line != .plain

/-- The line holds nothing but white space. -/
def isBlankLine (line : Text) : Bool := line.all Text.isBlank

end Section

end BlockAudit
