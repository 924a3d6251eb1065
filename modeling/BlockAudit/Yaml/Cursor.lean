import BlockAudit.Text.Basic

/-!
# Places in a YAML document

A document is read from left to right. A cursor holds what is left of it and where that begins; lines
and columns matter, since they carry the structure of a document.
-/

namespace BlockAudit

namespace Yaml

/-- A document may hold this character. -/
def isAllowed (c : Char) : Bool :=
  let n := c.toNat
  n == 0x09 || n == 0x0A || n == 0x0D || (0x20 ≤ n && n ≤ 0x7E) || n == 0x85 ||
    (0xA0 ≤ n && n ≤ 0xD7FF) || (0xE000 ≤ n && n ≤ 0xFFFD) || 0x10000 ≤ n

/-- The character ends a line. -/
def isBreak (c : Char) : Bool :=
  c == '\n' || c == '\r' || c == '\u0085' || c == '\u2028' || c == '\u2029'

/-- A space or a tab. -/
def isBlank (c : Char) : Bool := c == ' ' || c == '\t'

/-- A blank or the end of a line. -/
def isSpace (c : Char) : Bool := isBlank c || isBreak c

/-- White space or the end of the document comes next. -/
def endsWord (next : Option Char) : Bool := next.all isSpace

/-- A character of names of anchors, tag handles and directives. -/
def isNameChar (c : Char) : Bool := c.isAlphanum || c == '_' || c == '-'

/-- What is left of a document, and the place where it begins. -/
structure Cursor where
  rest : Text
  /-- The number of characters before the place. -/
  index : Nat := 0
  /-- The number of lines before the place. -/
  line : Nat := 0
  /-- The number of characters of the line before the place. -/
  column : Nat := 0

namespace Cursor

/-- The next character. -/
def peek? (p : Cursor) : Option Char := p.rest.head?

/-- The cursor after `n` characters of the same line. -/
def forward (p : Cursor) (n : Nat) : Cursor :=
  { p with rest := p.rest.drop n, index := p.index + n, column := p.column + n }

/-- The cursor after a given word, which must come next. -/
def after? (p : Cursor) (word : Text) : Option Cursor :=
  if Text.startsWith word p.rest then some (p.forward word.length) else none

/-- The characters with the property `q` that follow one another, and the cursor after them. They must
not end the line. -/
def span (p : Cursor) (q : Char → Bool) : Text × Cursor :=
  let word := p.rest.takeWhile q
  (word, p.forward word.length)

/-- The cursor after all characters with the property `q` that follow one another. -/
def skip (p : Cursor) (q : Char → Bool) : Cursor := (p.span q).2

/-- The cursor at the start of a new line, after `n` characters that ended the line before. -/
def newLine (p : Cursor) (n : Nat) : Cursor :=
  { rest := p.rest.drop n, index := p.index + n, line := p.line + 1, column := 0 }

/-- The end of the line, as far as it is kept in texts: a line feed, unless the line is ended by one of
the two separators of lines and paragraphs. -/
def lineEnd? (p : Cursor) : Option (Text × Cursor) :=
  match p.rest with
  | '\r' :: '\n' :: _ => some (['\n'], p.newLine 2)
  | c :: _ =>
    if c = '\u2028' ∨ c = '\u2029' then some ([c], p.newLine 1)
    else if isBreak c then some (['\n'], p.newLine 1)
    else none
  | [] => none

/-- A marker of the start or the end of a document comes next. -/
def atMarker (p : Cursor) (marker : Text) : Bool :=
  p.column == 0 && Text.startsWith marker p.rest && endsWord (p.rest.drop marker.length).head?

/-- The marker of the start of a document. -/
def startMarker : Text := "---"

/-- The marker of the end of a document. -/
def endMarker : Text := "..."

/-- One of the two markers comes next. -/
def atAnyMarker (p : Cursor) : Bool := p.atMarker startMarker || p.atMarker endMarker

/-- The cursor after a comment, if one comes next. -/
def skipComment (p : Cursor) : Cursor :=
  if p.peek? = some '#' then p.skip fun c => !isBreak c else p

/-- The cursor at the end of a line on which only blanks and a comment are left. -/
def restOfLine? (p : Cursor) : Option Cursor :=
  let p := (p.skip isBlank).skipComment
  if p.peek?.all isBreak then some (((p.lineEnd?).map Prod.snd).getD p) else none

end Cursor

end Yaml

end BlockAudit
