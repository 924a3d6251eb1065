import BlockAudit.Binary64.Scientific
import BlockAudit.Json.Basic
import BlockAudit.Text.Alphanumeric

/-!
# JSON literals

Reads strings, numbers and the brackets and commas of lists from the start of a text. Each reader
answers with what it read and what follows, or with nothing when the text does not start with a
literal of its kind.
-/

namespace BlockAudit

namespace Json

/-- JSON's own white space. -/
def isSpace (c : Char) : Bool := c == ' ' || c == '\t' || c == '\n' || c == '\r'

def skipSpace (s : Text) : Text := s.dropWhile isSpace

/-- The value of a hexadecimal digit of either case. -/
def hexDigit? (c : Char) : Option Nat :=
  if '0' ≤ c ∧ c ≤ '9' then some (c.toNat - '0'.toNat)
  else if 'a' ≤ c ∧ c ≤ 'f' then some (c.toNat - 'a'.toNat + 10)
  else if 'A' ≤ c ∧ c ≤ 'F' then some (c.toNat - 'A'.toNat + 10)
  else none

/-- The number written by four hexadecimal digits, and the rest. -/
def hex4? : Text → Option (Nat × Text)
  | a :: b :: c :: d :: rest => do
    let a ← hexDigit? a
    let b ← hexDigit? b
    let c ← hexDigit? c
    let d ← hexDigit? d
    return (((a * 16 + b) * 16 + c) * 16 + d, rest)
  | _ => none

/-- The first half of a pair of code units for one character beyond U+FFFF. -/
def isHighSurrogate (n : Nat) : Bool := 0xD800 ≤ n && n < 0xDC00

/-- The second half of such a pair. -/
def isLowSurrogate (n : Nat) : Bool := 0xDC00 ≤ n && n < 0xE000

/-- The character of a single-letter escape. -/
def escaped? (c : Char) : Option Char :=
  [('"', '"'), ('\\', '\\'), ('/', '/'), ('b', '\x08'), ('f', '\x0c'), ('n', '\n'), ('r', '\r'),
    ('t', '\t')].lookup c

/-- The rest of a string after its opening quote. A control below U+0020 is refused, and so is half
a surrogate pair. -/
def stringTail? (fuel : Nat) (s : Text) : Option (Text × Text) :=
  match fuel, s with
  | 0, _ | _, [] => none
  | fuel + 1, c :: s => do
    if c = '"' then return ([], s)
    let (d, rest) ←
      if c = '\\' then
        match s with
        | 'u' :: s => do
          let (n, rest) ← hex4? s
          if isHighSurrogate n then
            match rest with
            | '\\' :: 'u' :: rest => do
              let (m, rest) ← hex4? rest
              if isLowSurrogate m then
                some (Char.ofNat (0x10000 + (n - 0xD800) * 0x400 + (m - 0xDC00)), rest)
              else none
            | _ => none
          else if isLowSurrogate n then none
          else some (Char.ofNat n, rest)
        | e :: s => (escaped? e).map (·, s)
        | [] => none
      else if c.toNat < 0x20 then none
      else some (c, s)
    let (tail, rest) ← stringTail? fuel rest
    return (d :: tail, rest)

/-- A string with its quotes. -/
def stringAt? (s : Text) : Option (Text × Text) :=
  match s with
  | '"' :: rest => stringTail? (rest.length + 1) rest
  | _ => none

/-- A number as it is written. -/
structure NumberLiteral where
  negative : Bool
  /-- The digits before the point, without a leading zero. -/
  whole : Text
  /-- The digits after the point, if there is one. -/
  fraction : Text
  /-- The number after the letter `e`, if there is one. -/
  exponent : Option Int

/-- The value of a text of decimal digits. -/
def digitsValue (digits : Text) : Nat :=
  digits.foldl (fun n c => 10 * n + (c.toNat - '0'.toNat)) 0

/-- One or more decimal digits. -/
def digits? (s : Text) : Option (Text × Text) :=
  let digits := s.takeWhile Text.isAsciiDigit
  if digits.isEmpty then none else some (digits, s.dropWhile Text.isAsciiDigit)

/-- The exponent after the letter `e`. -/
def exponent? (s : Text) : Option (Int × Text) :=
  match s with
  | '-' :: rest => (digits? rest).map fun (digits, rest) => (-(digitsValue digits : Int), rest)
  | '+' :: rest => (digits? rest).map fun (digits, rest) => ((digitsValue digits : Int), rest)
  | _ => (digits? s).map fun (digits, rest) => ((digitsValue digits : Int), rest)

/-- A number's literal. -/
def numberLiteral? (s : Text) : Option (NumberLiteral × Text) := do
  let (negative, s) := match s with
    | '-' :: rest => (true, rest)
    | _ => (false, s)
  let (whole, s) ← digits? s
  if whole.head? = some '0' ∧ whole.length ≠ 1 then none
  let (fraction, s) ← match s with
    | '.' :: rest => digits? rest
    | _ => some ([], s)
  let (exponent, s) ← match s with
    | 'e' :: rest | 'E' :: rest => (exponent? rest).map fun (e, rest) => (some e, rest)
    | _ => some (none, s)
  return (⟨negative, whole, fraction, exponent⟩, s)

/-- Appends digits to a significand as long as it stays below `2 ^ 64`; the digits left over follow. -/
def appendDigits (significand : Nat) : Text → Nat × Text
  | [] => (significand, [])
  | c :: digits =>
    let next := 10 * significand + (c.toNat - '0'.toNat)
    if next < Nat.pow 2 64 then appendDigits next digits else (significand, c :: digits)

/-- The floating-point value of a literal. The digits that fit a 64-bit significand are kept, before
the point first; a digit dropped before the point counts as a factor of ten. -/
def NumberLiteral.real? (n : NumberLiteral) : Option Binary64 :=
  let (significand, dropped) := appendDigits 0 n.whole
  let (significand, unread) := appendDigits significand n.fraction
  let taken := n.fraction.length - unread.length
  Binary64.ofScientific? n.negative significand (dropped.length - taken + n.exponent.getD 0)

/-- The value of a literal. A literal without point and exponent is a whole number when the signed or
the unsigned 64-bit range holds it; minus zero is not a whole number. -/
def NumberLiteral.value? (n : NumberLiteral) : Option JsonNumber :=
  let size := digitsValue n.whole
  let fits := if n.negative then 0 < size ∧ size ≤ Nat.pow 2 63 else size < Nat.pow 2 64
  if n.fraction.isEmpty ∧ n.exponent = none ∧ fits then
    some (.whole (if n.negative then -(size : Int) else size))
  else n.real?.map .real

/-- The members of a list after its first one, up to the closing bracket. -/
def commaTail? {α : Type} (close : Char) (read : Text → Option (α × Text)) :
    (fuel : Nat) → Text → Option (List α × Text)
  | 0, _ => none
  | fuel + 1, s =>
    match skipSpace s with
    | [] => none
    | c :: rest =>
      if c = close then some ([], rest)
      else if c = ',' then do
        let (member, rest) ← read (skipSpace rest)
        let (members, rest) ← commaTail? close read fuel rest
        return (member :: members, rest)
      else none

/-- The members of a list, separated by commas, up to the closing bracket. -/
def commaList? {α : Type} (close : Char) (read : Text → Option (α × Text)) (s : Text) :
    Option (List α × Text) :=
  match skipSpace s with
  | [] => none
  | c :: rest =>
    if c = close then some ([], rest)
    else do
      let (member, rest) ← read (c :: rest)
      let (members, rest) ← commaTail? close read (s.length + 1) rest
      return (member :: members, rest)

/-- A field of an object: a key, a colon and a value. -/
def fieldAt? {κ α : Type} (key : Text → Option (κ × Text)) (read : Text → Option (α × Text))
    (s : Text) : Option ((κ × α) × Text) := do
  let (key, rest) ← key s
  match skipSpace rest with
  | ':' :: rest => do
    let (value, rest) ← read (skipSpace rest)
    return ((key, value), rest)
  | _ => none

end Json

end BlockAudit
