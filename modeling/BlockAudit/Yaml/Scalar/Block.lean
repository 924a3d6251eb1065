import BlockAudit.Yaml.Scalar

/-!
# Block scalars

A block scalar stands on the lines after its header, each indented by the same number of spaces. A
literal one keeps its lines; a folded one joins lines that begin without a blank. The header may give
the indentation, and what happens to the ends of lines after the last one.
-/

namespace BlockAudit

namespace Yaml

/-- What happens to the ends of lines after the text. -/
inductive Chomp
  /-- All are left out. -/
  | strip
  /-- The first is kept. -/
  | clip
  /-- All are kept. -/
  | keep
  deriving DecidableEq, Repr

/-- The header of a block scalar. -/
structure BlockHeader where
  chomp : Chomp := .clip
  /-- The indentation below the surrounding structure, if it is given. -/
  increment : Option Nat := none

/-- The chomping that a sign stands for. -/
def chompOf? (c : Char) : Option Chomp := [('+', Chomp.keep), ('-', Chomp.strip)].lookup c

/-- The header after its first character: a sign and a digit other than zero, in any order, each of
which may be missing. -/
def blockHeader? (p : Cursor) : Option (BlockHeader × Cursor) :=
  let sign (p : Cursor) : Option (Chomp × Cursor) := do
    return (← chompOf? (← p.peek?), p.forward 1)
  let digit (p : Cursor) : Option (Nat × Cursor) := do
    let c ← p.peek?
    if c.isDigit then some (c.toNat - '0'.toNat, p.forward 1) else none
  let (chomp, p) := match sign p with
    | some (chomp, q) => (some chomp, q)
    | none => (none, p)
  let (increment, p) := match digit p with
    | some (n, q) => (some n, q)
    | none => (none, p)
  let (chomp, p) := match chomp, increment, sign p with
    | none, some _, some (chomp, q) => (some chomp, q)
    | _, _, _ => (chomp, p)
  if increment = some 0 then none else some (⟨chomp.getD .clip, increment⟩, p)

/-- The ends of lines that follow one another, the widest indentation on the way, and the cursor after
them. Spaces are skipped up to the column `indent`, or all if it is zero; a tab may not stand there. -/
def blockLineEnds? (indent : Nat) : (fuel : Nat) → Cursor → Option (Text × Nat × Cursor)
  | 0, _ => none
  | fuel + 1, p =>
    let spaces := (p.rest.takeWhile (· == ' ')).length
    let q := p.forward (if indent = 0 then spaces else min spaces (indent - p.column))
    if (indent = 0 ∨ q.column < indent) ∧ q.peek? = some '\t' then none
    else match q.lineEnd? with
      | none => some ([], q.column, q)
      | some (kept, r) =>
        (blockLineEnds? indent fuel r).map fun (ends, widest, last) =>
          (kept ++ ends, max q.column widest, last)

/-- The text read so far and the ends of lines after it: the first one, and all others. -/
structure BlockText where
  text : Text := []
  lineEnd : Text := []
  moreEnds : Text := []
  /-- The last line begins with a blank. -/
  startsBlank : Bool := false

/-- The text with one more line. -/
def BlockText.addLine (b : BlockText) (folded : Bool) (line : Text) : Text :=
  let joined := folded && b.lineEnd == ['\n'] && !b.startsBlank && !line.head?.any isBlank
  b.text ++ (if joined then if b.moreEnds.isEmpty then [' '] else [] else b.lineEnd) ++ b.moreEnds ++
    line

/-- Reads the lines that stand at the column `indent`. -/
def blockLines? (folded : Bool) (indent : Nat) :
    (fuel : Nat) → BlockText → Cursor → Option (BlockText × Cursor)
  | 0, _, _ => none
  | fuel + 1, b, p =>
    if p.column = indent ∧ !p.rest.isEmpty then do
      let (line, q) := p.span fun c => !isBreak c
      let (lineEnd, r) := (q.lineEnd?).getD ([], q)
      let (moreEnds, _, s) ← blockLineEnds? indent (r.rest.length + 1) r
      let read : BlockText := {
        text := b.addLine folded line, lineEnd, moreEnds, startsBlank := line.head?.any isBlank }
      blockLines? folded indent fuel read s
    else some (b, p)

/-- The block scalar whose first character comes next. Its indentation is greater than `parent`, the
indentation of the surrounding structure. -/
def block? (folded : Bool) (parent : Int) (p : Cursor) : Option (Text × Cursor) := do
  let (header, q) ← blockHeader? (p.forward 1)
  let q ← q.restOfLine?
  let given := match header.increment with
    | none => 0
    | some n => n + parent.toNat
  let (ends, widest, r) ← blockLineEnds? given (q.rest.length + 1) q
  let indent := if given = 0 then max widest (max 1 (parent + 1).toNat) else given
  let (b, last) ← blockLines? folded indent (r.rest.length + 1) { moreEnds := ends } r
  let tail := match header.chomp with
    | .strip => []
    | .clip => b.lineEnd
    | .keep => b.lineEnd ++ b.moreEnds
  return (b.text ++ tail, last)

end Yaml

end BlockAudit
