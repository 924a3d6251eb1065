import BlockAudit.Json.Literal

/-!
# Reading JSON

The strict grammar: one value with white space around it and nothing else, no comments, no trailing
commas, at most 127 arrays and objects inside one another. A key that an object repeats keeps its
first place and its last value.
-/

namespace BlockAudit

namespace Json

/-- The fields of an object in the order of its first occurrences of keys. -/
def mergeFields (fields : List (Text × Json)) : Fields :=
  fields.foldl (fun merged (key, value) => merged.set key value) []

/-- The value at the start of a text, with at most `depth` nested arrays and objects. -/
def valueAt? (depth : Nat) (s : Text) : Option (Json × Text) :=
  match s with
  | [] => none
  | '"' :: _ => (stringAt? s).map fun (text, rest) => (.string text, rest)
  | '[' :: rest =>
    match depth with
    | 0 => none
    | depth + 1 =>
      (commaList? ']' (valueAt? depth) rest).map fun (items, rest) => (.array items, rest)
  | '{' :: rest =>
    match depth with
    | 0 => none
    | depth + 1 =>
      (commaList? '}' (fieldAt? stringAt? (valueAt? depth)) rest).map fun (fields, rest) =>
        (.object (mergeFields fields), rest)
  | 't' :: _ => (Text.after? "true" s).map ((.bool true), ·)
  | 'f' :: _ => (Text.after? "false" s).map ((.bool false), ·)
  | 'n' :: _ => (Text.after? "null" s).map (.null, ·)
  | _ => do
    let (literal, rest) ← numberLiteral? s
    let number ← literal.value?
    return (.number number, rest)

/-- The greatest number of arrays and objects inside one another. -/
def maxDepth : Nat := 127

/-- The value that a whole text spells. -/
def parse? (s : Text) : Option Json := do
  let (value, rest) ← valueAt? maxDepth (skipSpace s)
  if (skipSpace rest).isEmpty then some value else none

end Json

end BlockAudit
