import BlockAudit.Yaml.Scalar

/-!
# Quoted scalars

Between single quotes only the quote itself is written in another way, namely twice. Between double
quotes a backslash begins an escape; before the end of a line it joins two lines.
-/

namespace BlockAudit

namespace Yaml

/-- The characters that an escape of one letter stands for. -/
def letterEscapes : List (Char × Char) :=
  [('0', '\x00'), ('a', '\x07'), ('b', '\x08'), ('t', '\t'), ('\t', '\t'), ('n', '\n'),
    ('v', '\x0b'), ('f', '\x0c'), ('r', '\r'), ('e', '\x1b'), (' ', ' '), ('"', '"'), ('/', '/'),
    ('\\', '\\'), ('N', '\u0085'), ('_', '\u00a0'), ('L', '\u2028'), ('P', '\u2029')]

/-- The number of digits in an escape that gives a character by its number. -/
def digitEscapes : List (Char × Nat) := [('x', 2), ('u', 4), ('U', 8)]

/-- The value of a hexadecimal digit of either case. -/
def hexValue? (c : Char) : Option Nat :=
  if '0' ≤ c ∧ c ≤ '9' then some (c.toNat - '0'.toNat)
  else if 'a' ≤ c ∧ c ≤ 'f' then some (c.toNat - 'a'.toNat + 10)
  else if 'A' ≤ c ∧ c ≤ 'F' then some (c.toNat - 'A'.toNat + 10)
  else none

/-- The number that hexadecimal digits spell. -/
def hexNumber? (digits : Text) : Option Nat :=
  digits.foldlM (fun n c => (hexValue? c).map (16 * n + ·)) 0

/-- The character of an escape after its backslash, and the cursor after the escape. -/
def escape? (p : Cursor) : Option (Char × Cursor) := do
  let letter ← p.peek?
  match letterEscapes.lookup letter with
  | some c => return (c, p.forward 1)
  | none =>
    let width ← digitEscapes.lookup letter
    let digits := (p.rest.drop 1).take width
    let number ← hexNumber? digits
    if digits.length = width ∧ number.isValidChar then
      some (Char.ofNat number, p.forward (1 + width))
    else none

/-- The rest of a quoted scalar after its opening quote, and the cursor after the closing one. -/
def quotedTail? (double : Bool) : (fuel : Nat) → Cursor → Option (Text × Cursor)
  | 0, _ => none
  | fuel + 1, p => do
    if p.atAnyMarker then none
    let quote := if double then '"' else '\''
    match p.rest with
    | [] => none
    | c :: more =>
      let (text, q) ←
        if isSpace c then (gap? 0 p).map fun (text, _, q) => (text, q)
        else if c = quote then
          if !double ∧ more.head? = some quote then some ([quote], p.forward 2)
          else return ([], p.forward 1)
        else if double ∧ c = '\\' then
          if more.head?.any isBreak then
            (lineEnds? 0 (p.rest.length + 1) (p.forward 1)).map fun (ends, q) =>
              ((ends.drop 1).flatten, q)
          else (escape? (p.forward 1)).map fun (c, q) => ([c], q)
        else some ([c], p.forward 1)
      let (tail, last) ← quotedTail? double fuel q
      return (text ++ tail, last)

/-- A scalar between quotes, the opening one of which comes next. -/
def quoted? (double : Bool) (p : Cursor) : Option (Text × Cursor) :=
  quotedTail? double (p.rest.length + 1) (p.forward 1)

end Yaml

end BlockAudit
