import BlockAudit.Yaml.Cursor

/-!
# Scalars over several lines

A scalar's text may go on on further lines. Where its lines meet, white space is folded.
-/

namespace BlockAudit

namespace Yaml

/-- The ways to write a scalar. -/
inductive ScalarStyle
  | plain
  | singleQuoted
  | doubleQuoted
  | literal
  | folded
  deriving DecidableEq, Repr

/-- The ends of lines that follow one another, and the cursor after them. Blanks at the start of each
new line are left out; a tab may not stand before the column `indent`. -/
def lineEnds? (indent : Nat) : (fuel : Nat) → Cursor → Option (List Text × Cursor)
  | 0, _ => none
  | fuel + 1, p =>
    match p.lineEnd? with
    | none => some ([], p)
    | some (kept, q) =>
      let (blanks, r) := q.span isBlank
      if (blanks.take indent).contains '\t' then none
      else (lineEnds? indent fuel r).map fun (ends, last) => (kept :: ends, last)

/-- What the ends of lines between two parts of a scalar stand for: one becomes a space, and of several
the first is left out. -/
def foldLineEnds : List Text → Text
  | [] => []
  | [only] => if only = ['\n'] then [' '] else only
  | first :: more => if first = ['\n'] then more.flatten else first ++ more.flatten

/-- White space inside a scalar: what it stands for, whether it crosses lines, and the cursor after
it. -/
def gap? (indent : Nat) (p : Cursor) : Option (Text × Bool × Cursor) := do
  let (blanks, q) := p.span isBlank
  let (ends, r) ← lineEnds? indent (q.rest.length + 1) q
  return if ends.isEmpty then (blanks, false, r) else (foldLineEnds ends, true, r)

end Yaml

end BlockAudit
