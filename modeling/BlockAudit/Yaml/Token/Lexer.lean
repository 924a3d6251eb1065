import BlockAudit.Yaml.Scalar.Block
import BlockAudit.Yaml.Scalar.Plain
import BlockAudit.Yaml.Token.Property

/-!
# Reading tokens

Tokens are read from left to right. Indentation that grows opens a structure, and indentation that
shrinks closes structures. What stands before a colon on the same line is a key, but this is known only
at the colon; so every place where a key may begin is kept until the line ends, and the tokens that the
key needs are put there afterwards.
-/

namespace BlockAudit

namespace Yaml

/-- A place where a key may have begun. -/
structure KeyStart where
  /-- The number of tokens before the key. -/
  position : Nat
  start : Cursor
  /-- Nothing but a key can stand here. -/
  required : Bool

/-- Where the reading of tokens stands. -/
structure Lexer where
  cursor : Cursor
  /-- The tokens read so far. -/
  tokens : List Token := []
  /-- The column of the innermost open structure; minus one outside of all. -/
  indent : Int := -1
  /-- The columns of the structures around it. -/
  outerIndents : List Int := []
  /-- The place where a key may have begun, outside of brackets or in the innermost ones. -/
  keyStart : Option KeyStart := none
  /-- The same for each pair of brackets around those, and for what is outside. -/
  outerKeyStarts : List (Option KeyStart) := []
  /-- A key may begin here. -/
  keyAllowed : Bool := true

namespace Lexer

/-- The place is inside brackets. -/
def inFlow (s : Lexer) : Bool := !s.outerKeyStarts.isEmpty

/-- Adds a token at the end. -/
def push (s : Lexer) (token : Token) : Lexer := { s with tokens := s.tokens ++ [token] }

/-- Adds tokens after the first `position` tokens. -/
def insert (s : Lexer) (position : Nat) (tokens : List Token) : Lexer :=
  { s with tokens := s.tokens.take position ++ tokens ++ s.tokens.drop position }

/-- Adds a token of `width` characters and goes past it. -/
def pushMark (s : Lexer) (width : Nat) (token : Token) : Lexer :=
  { s.push token with cursor := s.cursor.forward width }

/-- Gives up the place where a key may have begun. A required key must not be given up. -/
def dropKey (s : Lexer) : Option Lexer :=
  if s.keyStart.any KeyStart.required then none else some { s with keyStart := none }

/-- Keeps the place as one where a key may begin, if one may. -/
def saveKey (s : Lexer) : Option Lexer :=
  if s.keyAllowed then do
    let s ← s.dropKey
    let required := !s.inFlow && s.indent == s.cursor.column
    return { s with keyStart := some ⟨s.tokens.length, s.cursor, required⟩ }
  else some s

/-- A key can still have begun at a place: the place is on the same line and at most 1024 characters
ago. -/
def isFresh (s : Lexer) (key : KeyStart) : Bool :=
  s.cursor.line ≤ key.start.line && s.cursor.index ≤ key.start.index + 1024

/-- Gives up a place where no key can have begun any more. -/
def refresh (s : Lexer) (keyStart : Option KeyStart) : Option (Option KeyStart) :=
  match keyStart with
  | none => some none
  | some key =>
    if s.isFresh key then some (some key) else if key.required then none else some none

/-- Gives up all places where no keys can have begun any more. -/
def dropStaleKeys (s : Lexer) : Option Lexer := do
  let keyStart ← s.refresh s.keyStart
  let outerKeyStarts ← s.outerKeyStarts.mapM s.refresh
  return { s with keyStart, outerKeyStarts }

/-- Closes structures with a greater column than the given one. -/
def closeTo (s : Lexer) (column : Int) : Lexer :=
  if s.inFlow then s
  else
    let closed := (s.indent :: s.outerIndents).takeWhile (column < ·)
    match (s.indent :: s.outerIndents).drop closed.length with
    | [] => s
    | indent :: outerIndents =>
      { s with
        tokens := s.tokens ++ List.replicate closed.length .blockEnd, indent, outerIndents }

/-- Opens a structure at a column that is greater than those of the open ones; its first token goes after
the first `position` tokens. -/
def openAt (s : Lexer) (column : Nat) (position : Nat) (token : Token) : Lexer :=
  if !s.inFlow ∧ s.indent < column then
    { s.insert position [token] with
      indent := column, outerIndents := s.indent :: s.outerIndents }
  else s

/-- Skips white space and comments. After the end of a line outside of brackets a key may begin; where one
may, tabs are not skipped. -/
def skipSpace : (fuel : Nat) → Lexer → Lexer
  | 0, s => s
  | fuel + 1, s =>
    let tabs := s.inFlow || !s.keyAllowed
    let p := (s.cursor.skip fun c => c == ' ' || (tabs && c == '\t')).skipComment
    match p.lineEnd? with
    | none => { s with cursor := p }
    | some (_, q) => skipSpace fuel { s with cursor := q, keyAllowed := s.keyAllowed || !s.inFlow }

/-- Skips a byte order mark at the very start of the document. -/
def skipMark (s : Lexer) : Lexer :=
  if s.cursor.index = 0 ∧ s.cursor.peek? = some '\ufeff' then
    { s with cursor := s.cursor.forward 1 }
  else s

/-- An opening bracket. -/
def openBracket (s : Lexer) (token : Token) : Option Lexer := do
  let s ← s.saveKey
  return { s.pushMark 1 token with
    keyStart := none, outerKeyStarts := s.keyStart :: s.outerKeyStarts, keyAllowed := true }

/-- A closing bracket. -/
def closeBracket (s : Lexer) (token : Token) : Option Lexer := do
  let s ← s.dropKey
  let s := { s.pushMark 1 token with keyAllowed := false }
  match s.outerKeyStarts with
  | [] => return s
  | keyStart :: outerKeyStarts => return { s with keyStart, outerKeyStarts }

/-- The comma between items in brackets. -/
def comma (s : Lexer) : Option Lexer := do
  return { (← s.dropKey).pushMark 1 .flowEntry with keyAllowed := true }

/-- The hyphen before an item. -/
def hyphen (s : Lexer) : Option Lexer := do
  if !s.inFlow ∧ !s.keyAllowed then none
  let s ← (s.openAt s.cursor.column s.tokens.length .blockSequenceStart).dropKey
  return { s.pushMark 1 .blockEntry with keyAllowed := true }

/-- The question mark before a key. -/
def questionMark (s : Lexer) : Option Lexer := do
  if !s.inFlow ∧ !s.keyAllowed then none
  let s ← (s.openAt s.cursor.column s.tokens.length .blockMappingStart).dropKey
  return { s.pushMark 1 .key with keyAllowed := !s.inFlow }

/-- The colon before a value. It makes what stands before it on the line a key, if a key may have begun
there. -/
def colon (s : Lexer) : Option Lexer :=
  match s.keyStart with
  | some key =>
    let s := (s.insert key.position [.key]).openAt key.start.column key.position .blockMappingStart
    some { s.pushMark 1 .value with keyStart := none, keyAllowed := false }
  | none => do
    if !s.inFlow ∧ !s.keyAllowed then none
    let s := s.openAt s.cursor.column s.tokens.length .blockMappingStart
    return { s.pushMark 1 .value with keyAllowed := !s.inFlow }

/-- A token that a key may begin with. -/
def keyPart (s : Lexer) (read : Cursor → Option (Token × Cursor)) : Option Lexer := do
  let s ← s.saveKey
  let (token, cursor) ← read s.cursor
  return { s.push token with cursor, keyAllowed := false }

/-- A plain scalar. A key may begin after it when it ends with the end of a line. -/
def plainScalar (s : Lexer) : Option Lexer := do
  let s ← s.saveKey
  let (text, crossed, cursor) ← plain? s.inFlow (s.indent + 1).toNat s.cursor
  return { s.push (.scalar .plain text) with cursor, keyAllowed := crossed }

/-- A block scalar. -/
def blockScalar (s : Lexer) (folded : Bool) : Option Lexer := do
  let s ← s.dropKey
  let (text, cursor) ← block? folded s.indent s.cursor
  return { s.push (.scalar (if folded then .folded else .literal) text) with
    cursor, keyAllowed := true }

/-- A directive or a marker of a document's start or end, which closes all structures. -/
def documentPart (s : Lexer) (read : Cursor → Option (Token × Cursor)) : Option Lexer := do
  let s ← (s.closeTo (-1)).dropKey
  let (token, cursor) ← read s.cursor
  return { s.push token with cursor, keyAllowed := false }

/-- The characters that no plain scalar begins with, apart from those it may begin with when no white
space follows. -/
def isIndicator (c : Char) : Bool := "-?:,[]\x7b\x7d#&*!|>'\"%@`".contains c

/-- A plain scalar begins with the character `c` if `next` follows. -/
def startsPlain (s : Lexer) (c : Char) (next : Option Char) : Bool :=
  !(isSpace c || isIndicator c) || (c == '-' && !next.any isBlank) ||
    (!s.inFlow && (c == '?' || c == ':') && !endsWord next)

/-- Reads the token that comes next and begins with `c`. -/
def nextToken (s : Lexer) (c : Char) : Option Lexer :=
  let p := s.cursor
  let next := (p.rest.drop 1).head?
  let alone := endsWord next
  if p.column = 0 ∧ c = '%' then s.documentPart fun p => directive? (p.forward 1)
  else if p.atMarker Cursor.startMarker then
    s.documentPart fun p => some (.documentStart, p.forward 3)
  else if p.atMarker Cursor.endMarker then
    s.documentPart fun p => some (.documentEnd, p.forward 3)
  else if c = '[' then s.openBracket .flowSequenceStart
  else if c = '{' then s.openBracket .flowMappingStart
  else if c = ']' then s.closeBracket .flowSequenceEnd
  else if c = '}' then s.closeBracket .flowMappingEnd
  else if c = ',' then s.comma
  else if c = '-' ∧ alone then s.hyphen
  else if c = '?' ∧ (s.inFlow ∨ alone) then s.questionMark
  else if c = ':' ∧ (s.inFlow ∨ alone) then s.colon
  else if c = '*' then s.keyPart fun p => do
    let (name, q) ← anchorName? (p.forward 1)
    return (.alias name, q)
  else if c = '&' then s.keyPart fun p => do
    let (name, q) ← anchorName? (p.forward 1)
    return (.anchor name, q)
  else if c = '!' then s.keyPart (tag? s.inFlow)
  else if c = '|' ∧ !s.inFlow then s.blockScalar false
  else if c = '>' ∧ !s.inFlow then s.blockScalar true
  else if c = '\'' then s.keyPart fun p => do
    let (text, q) ← quoted? false p
    return (.scalar .singleQuoted text, q)
  else if c = '"' then s.keyPart fun p => do
    let (text, q) ← quoted? true p
    return (.scalar .doubleQuoted text, q)
  else if s.startsPlain c next then s.plainScalar
  else none

/-- The tokens of the whole document. -/
def run : (fuel : Nat) → Lexer → Option (List Token)
  | 0, _ => none
  | fuel + 1, s => do
    let s := skipSpace (s.cursor.rest.length + 1) s.skipMark
    let s ← s.dropStaleKeys
    let s := s.closeTo s.cursor.column
    match s.cursor.peek? with
    | none => return (← (s.closeTo (-1)).dropKey).tokens
    | some c => run fuel (← s.nextToken c)

end Lexer

/-- The tokens of a text, if it has the lexical form of a document. -/
def Token.scan? (text : Text) : Option (List Token) :=
  if text.all isAllowed then Lexer.run (text.length + 1) { cursor := { rest := text } } else none

end Yaml

end BlockAudit
