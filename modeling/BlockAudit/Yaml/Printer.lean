import BlockAudit.Yaml.Cursor
import BlockAudit.Yaml.CoreType

/-!
# Printed scalars

A text is printed as a scalar in the simplest style that reads back: plain if possible, else between
single quotes, else between double quotes with escapes. A text with a line feed is printed line by line
as a literal scalar, if that is possible.
-/

namespace BlockAudit

namespace Yaml

/-- The character can be printed as it is. -/
def isPrintable (c : Char) : Bool :=
  let n := c.toNat
  n == 0x0A || (0x20 ≤ n && n ≤ 0x7E) ||
    (0xA0 ≤ n && n != 0xFEFF && n != 0xFFFE && n != 0xFFFF)

/-- A character with the property `p` is followed by one with the property `q`. -/
def hasPair (p q : Char → Bool) : Text → Bool
  | a :: b :: s => (p a && q b) || hasPair p q (b :: s)
  | _ => false

/-- A text begins like something else than a plain scalar. -/
def startsMarked (s : Text) : Bool :=
  Text.startsWith "---" s || Text.startsWith "..." s ||
    match s with
    | [] => false
    | c :: rest =>
      "#,[]\x7b\x7d&*!|>'\"%@`".contains c || ("?:-".contains c && endsWord rest.head?)

/-- A colon before white space or the end, or a comment, stands inside a text. -/
def hasMark (s : Text) : Bool :=
  s.getLast? == some ':' || hasPair (· == ':') isSpace s || hasPair isSpace (· == '#') s

/-- The text can be printed without quotes. -/
def allowsPlain (s : Text) : Bool :=
  s.all isPrintable && !s.any isBreak && s.head? != some ' ' && s.getLast? != some ' ' &&
    !startsMarked s && !hasMark s

/-- The text can be printed between single quotes. -/
def allowsSingleQuotes (s : Text) : Bool :=
  s.all isPrintable && !hasPair isBreak (· == ' ') s && !hasPair (· == ' ') isBreak s

/-- The text can be printed line by line. -/
def allowsLiteral (s : Text) : Bool :=
  s.all isPrintable && !hasPair (· == ' ') isBreak s && s.getLast? != some ' '

/-- A text on several lines, with each line that is not empty indented; `atStart` tells whether a line
begins. -/
def indentLines (indent : Nat) (atStart : Bool) : Text → Text
  | [] => []
  | c :: s =>
    if isBreak c then c :: indentLines indent true s
    else (if atStart then List.replicate indent ' ' else []) ++ c :: indentLines indent false s

/-- A text between single quotes. Lines after the first are indented. -/
def singleQuoted (indent : Nat) (s : Text) : Text :=
  let doubled := s.flatMap fun c => if c = '\'' then ['\'', '\''] else [c]
  ['\''] ++ indentLines indent false doubled ++
    (if s.getLast?.any isBreak then List.replicate indent ' ' else []) ++ ['\'']

/-- The escapes of one letter. -/
def shortEscapes : List (Char × Char) :=
  [('\x00', '0'), ('\x07', 'a'), ('\x08', 'b'), ('\t', 't'), ('\n', 'n'), ('\x0b', 'v'), ('\x0c', 'f'),
    ('\r', 'r'), ('\x1b', 'e'), ('"', '"'), ('\\', '\\'), ('\u0085', 'N'), ('\u2028', 'L'),
    ('\u2029', 'P')]

/-- The escape that gives a character by its number. -/
def numberEscape (c : Char) : Text :=
  let digits (width : Nat) : Text := (Text.ofNatPadded 16 width c.toNat).map Char.toUpper
  if c.toNat ≤ 0xFF then '\\' :: 'x' :: digits 2
  else if c.toNat ≤ 0xFFFF then '\\' :: 'u' :: digits 4
  else '\\' :: 'U' :: digits 8

/-- A character between double quotes. -/
def escapeChar (c : Char) : Text :=
  match shortEscapes.lookup c with
  | some letter => ['\\', letter]
  | none => if isPrintable c then [c] else numberEscape c

/-- A text between double quotes. -/
def doubleQuoted (s : Text) : Text := ['"'] ++ s.flatMap escapeChar ++ ['"']

/-- The sign in a literal scalar's header for the ends of lines after the text. -/
def chompSign (s : Text) : Text :=
  match s.reverse with
  | [] => ['-']
  | [c] => if isBreak c then ['+'] else ['-']
  | c :: d :: _ => if !isBreak c then ['-'] else if isBreak d then ['+'] else []

/-- A text as a literal scalar. Its last line is not ended if the text does not end it. -/
def literal (indent : Nat) (s : Text) : Text :=
  let hint : Text := if s.head?.any isSpace then ['2'] else []
  ['|'] ++ hint ++ chompSign s ++ ['\n'] ++ indentLines indent true s

/-- A text as a scalar with the end of the line after it. Lines after the first are indented by `indent`
spaces. -/
def printLine (indent : Nat) (s : Text) : Text :=
  if s.contains '\n' then
    if allowsLiteral s then literal indent s ++ if s.getLast?.any isBreak then [] else ['\n']
    else doubleQuoted s ++ ['\n']
  else if !isTyped s ∧ allowsPlain s then s ++ ['\n']
  else if allowsSingleQuotes s then singleQuoted indent s ++ ['\n']
  else doubleQuoted s ++ ['\n']

end Yaml

end BlockAudit
