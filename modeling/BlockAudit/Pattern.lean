import BlockAudit.Text.WordChar
import BlockAudit.Text.Basic

/-!
# Patterns

A reader takes a fixed form of words from the start of a text. A pattern also knows the character
before the place where it is tried, and answers with a value. Scanning a text with a pattern goes from
left to right and does not look for a match inside an earlier one.
-/

namespace BlockAudit

/-- What is left of a text after the part that is read. -/
abbrev Reader := Text → Option Text

namespace Reader

/-- A given word. -/
def word (w : Text) : Reader := Text.after? w

/-- One character with the property `p`. -/
def one (p : Char → Bool) : Reader
  | c :: s => if p c then some s else none
  | [] => none

/-- All characters with the property `p` that follow one another, maybe none. -/
def many (p : Char → Bool) : Reader := fun s => some (s.dropWhile p)

/-- White space, maybe none. -/
def blanks : Reader := many Text.isBlank

/-- One reader after the other. -/
def seq (readers : List Reader) : Reader := fun s => readers.foldlM (fun s read => read s) s

/-- At least one character of white space. -/
def blanks1 : Reader := seq [one Text.isBlank, blanks]

/-- The end of a word: no word character follows. -/
def wordEnd : Reader := fun s => if Text.atBoundary s.head? then some s else none

/-- What the reader reads, if it reads anything. -/
def maybe (read : Reader) : Reader := fun s => some ((read s).getD s)

/-- The first of two readers that succeeds. -/
def either (first second : Reader) : Reader := fun s => first s <|> second s

/-- A single or a double quote. -/
def quoteMark : Reader := one fun c => c = '\'' ∨ c = '"'

/-- A text without quotes between two quotes, which need not be alike. -/
def quoted : Reader := seq [quoteMark, many fun c => c ≠ '\'' ∧ c ≠ '"', quoteMark]

/-- The reader succeeds at some place of the text. -/
def occursIn (read : Reader) : Text → Bool
  | [] => (read []).isSome
  | c :: s => (read (c :: s)).isSome || occursIn read s

/-- The reader succeeds at the start of some line of the text; `atStart` tells whether the text itself
begins a line. -/
def occursAtLineStart (read : Reader) (atStart : Bool) : Text → Bool
  | [] => atStart && (read []).isSome
  | c :: s => (atStart && (read (c :: s)).isSome) || occursAtLineStart read (c == '\n') s

end Reader

/-- A value and what is left of a text, where the form of words stands that is looked for. -/
abbrev Pattern (α : Type) := (before : Option Char) → Text → Option (α × Text)

/-- A scanned text is a sequence of matches and of single characters between them. -/
inductive Piece (α : Type)
  | gap (c : Char)
  | hit (value : α)

/-- The part that a reader reads, as a pattern. -/
def Reader.matched (read : Reader) : Pattern Text := fun _ s =>
  (read s).map fun rest => (s.take (s.length - rest.length), rest)

namespace Pattern

/-- The matches of a pattern in a text and the characters between them, from left to right. -/
def scan {α : Type} (p : Pattern α) (before : Option Char) (s : Text) : List (Piece α) :=
  match s with
  | [] => []
  | c :: t =>
    match p before (c :: t) with
    | none => .gap c :: scan p (some c) t
    | some (value, rest) =>
      if rest.length ≤ t.length then
        .hit value :: scan p ((c :: t).take (t.length + 1 - rest.length)).getLast? rest
      else .gap c :: scan p (some c) t
termination_by s.length

/-- The values of the matches, from left to right. -/
def hits {α : Type} (p : Pattern α) (s : Text) : List α :=
  (p.scan none s).filterMap fun
    | .gap _ => none
    | .hit value => some value

/-- The text with every match replaced. -/
def replaceAll {α : Type} (p : Pattern α) (replacement s : Text) : Text :=
  (p.scan none s).flatMap fun
    | .gap c => [c]
    | .hit _ => replacement

end Pattern

/-- The text with every occurrence of a word replaced, from left to right. -/
def Text.replace (word replacement s : Text) : Text :=
  (Reader.word word).matched.replaceAll replacement s

end BlockAudit
