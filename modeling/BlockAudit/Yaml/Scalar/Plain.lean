import BlockAudit.Yaml.Scalar

/-!
# Plain scalars

A scalar without quotes goes on until something that cannot belong to it: a colon before white space,
a comment, and inside brackets a comma or a bracket. Outside brackets it also ends where a line is not
indented enough.
-/

namespace BlockAudit

namespace Yaml

/-- The part of a plain scalar without white space that comes next; maybe empty. Inside brackets, a
colon directly before a bracket, a comma or a question mark is refused. -/
def plainWord? (flow : Bool) : Text → Option Text
  | [] => some []
  | c :: s =>
    if isSpace c then some []
    else if flow ∧ c = ':' ∧ s.head?.any (",?[]\x7b\x7d".contains ·) then none
    else if (c = ':' ∧ endsWord s.head?) ∨ (flow ∧ ",[]\x7b\x7d".contains c) then some []
    else (plainWord? flow s).map (c :: ·)

/-- A plain scalar from the cursor on, with the white space `before` it if it goes on at all. The answer
tells whether the white space at its end crosses lines. -/
def plainTail? (flow : Bool) (indent : Nat) :
    (fuel : Nat) → (before : Text) → (crossed : Bool) → Cursor → Option (Text × Bool × Cursor)
  | 0, _, _, _ => none
  | fuel + 1, before, crossed, p => do
    if p.atAnyMarker ∨ p.peek? = some '#' then return ([], crossed, p)
    let word ← plainWord? flow p.rest
    let q := p.forward word.length
    let (text, crossed) := if word.isEmpty then ([], crossed) else (before ++ word, false)
    if !q.peek?.any isSpace then return (text, crossed, q)
    let (white, crosses, r) ← gap? indent q
    if !flow ∧ r.column < indent then return (text, crosses, r)
    let (tail, crossed, last) ← plainTail? flow indent fuel white crosses r
    return (text ++ tail, crossed, last)

/-- The plain scalar that comes next. -/
def plain? (flow : Bool) (indent : Nat) (p : Cursor) : Option (Text × Bool × Cursor) :=
  plainTail? flow indent (p.rest.length + 1) [] false p

end Yaml

end BlockAudit
