import BlockAudit.Binary64.Shortest
import BlockAudit.Json.Basic

/-!
# Printed JSON

Values are printed with one field or item to a line and two spaces of indentation for each level; an
empty array or object takes no line of its own. In strings only the double quote, the backslash and
the controls below U+0020 are escaped.
-/

namespace BlockAudit

namespace Json

/-- A character as it stands in a printed string. -/
def escapeChar (c : Char) : Text :=
  if c = '"' then "\\\""
  else if c = '\\' then "\\\\"
  else if c = '\n' then "\\n"
  else if c = '\r' then "\\r"
  else if c = '\t' then "\\t"
  else if c = '\x08' then "\\b"
  else if c = '\x0c' then "\\f"
  else if c.toNat < 0x20 then "\\u" ++ Text.ofNatPadded 16 4 c.toNat
  else [c]

/-- A string between double quotes. -/
def printString (s : Text) : Text := ['"'] ++ s.flatMap escapeChar ++ ['"']

/-- A number, whole ones without a point. -/
def printNumber : JsonNumber → Text
  | .whole n => if n < 0 then '-' :: Text.ofNat n.natAbs else Text.ofNat n.natAbs
  | .real x => x.toText

/-- A new line at the given level. -/
def newLine (level : Nat) : Text := '\n' :: List.replicate (2 * level) ' '

mutual

/-- A value that stands at the given level. -/
def printAt (level : Nat) : Json → Text
  | .null => "null"
  | .bool true => "true"
  | .bool false => "false"
  | .number n => printNumber n
  | .string s => printString s
  | .array [] => "[]"
  | .array (item :: items) =>
    '[' :: newLine (level + 1) ++ printAt (level + 1) item ++ printItems (level + 1) items ++
      newLine level ++ [']']
  | .object [] => "\x7b\x7d"
  | .object ((key, value) :: fields) =>
    '{' :: newLine (level + 1) ++ printString key ++ ": " ++ printAt (level + 1) value ++
      printFields (level + 1) fields ++ newLine level ++ ['}']

/-- The items after the first one. -/
def printItems (level : Nat) : List Json → Text
  | [] => []
  | item :: items => ',' :: newLine level ++ printAt level item ++ printItems level items

/-- The fields after the first one. -/
def printFields (level : Nat) : List (Text × Json) → Text
  | [] => []
  | (key, value) :: fields =>
    ',' :: newLine level ++ printString key ++ ": " ++ printAt level value ++
      printFields level fields

end

/-- The printed form of a value. -/
def print (value : Json) : Text := printAt 0 value

end Json

end BlockAudit
