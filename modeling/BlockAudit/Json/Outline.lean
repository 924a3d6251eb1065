import BlockAudit.Json.Literal

/-!
# Outlines of JSON documents

What a reader of a fixed set of fields needs to know of a document: its strings, lists and objects. An
outline keeps repeated keys, does not look at the value of a number, and marks a string without a
meaning (one with half a surrogate pair) instead of refusing the document, since the field that holds
it may not matter. Any depth of nesting is read.
-/

namespace BlockAudit

namespace Json

/-- The outline of a JSON value. A key is missing when its string has no meaning. -/
inductive Outline
  | null
  /-- A boolean, a number, or a string without a meaning. -/
  | literal
  | string (s : Text)
  | array (items : List Outline)
  | object (fields : List (Option Text × Outline))

namespace Outline

/-- Skips a string whose escapes are well formed, whatever they stand for. -/
def skipString? : (fuel : Nat) → Text → Option Text
  | 0, _ | _, [] => none
  | fuel + 1, c :: s =>
    if c = '"' then some s
    else if c = '\\' then
      match s with
      | 'u' :: s => (hex4? s).bind fun (_, rest) => skipString? fuel rest
      | e :: s => if (escaped? e).isSome then skipString? fuel s else none
      | [] => none
    else if c.toNat < 0x20 then none
    else skipString? fuel s

/-- A string and its meaning, if it has one. -/
def stringAt? (s : Text) : Option (Option Text × Text) :=
  match Json.stringAt? s with
  | some (text, rest) => some (some text, rest)
  | none =>
    match s with
    | '"' :: rest => (skipString? (rest.length + 1) rest).map (none, ·)
    | _ => none

/-- The outline of the value at the start of a text. -/
def valueAt? (depth : Nat) (s : Text) : Option (Outline × Text) :=
  match s with
  | [] => none
  | '"' :: _ =>
    (stringAt? s).map fun (text, rest) => ((text.map Outline.string).getD .literal, rest)
  | '[' :: rest =>
    match depth with
    | 0 => none
    | depth + 1 =>
      (commaList? ']' (valueAt? depth) rest).map fun (items, rest) => (.array items, rest)
  | '{' :: rest =>
    match depth with
    | 0 => none
    | depth + 1 =>
      (commaList? '}' (fieldAt? stringAt? (valueAt? depth)) rest).map fun (fields, rest) =>
        (.object fields, rest)
  | 't' :: _ => (Text.after? "true" s).map (.literal, ·)
  | 'f' :: _ => (Text.after? "false" s).map (.literal, ·)
  | 'n' :: _ => (Text.after? "null" s).map (.null, ·)
  | _ => (numberLiteral? s).map fun (_, rest) => (.literal, rest)

/-- The outline of the value that a whole text spells. -/
def parse? (s : Text) : Option Outline := do
  let (value, rest) ← valueAt? s.length (skipSpace s)
  if (skipSpace rest).isEmpty then some value else none

end Outline

end Json

end BlockAudit
