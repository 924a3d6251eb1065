import BlockAudit.Text.Alphanumeric
import BlockAudit.Text.Basic

/-!
# Types of plain scalars

A plain scalar is null, a boolean or a number when its text has the form of one. Texts of those forms
have to be quoted to be texts.
-/

namespace BlockAudit

namespace Yaml

/-- The text of null. -/
def isNull (s : Text) : Bool := s ∈ (["null", "Null", "NULL", "~"] : List Text)

/-- The truth value that a text spells. -/
def bool? (s : Text) : Option Bool :=
  if s ∈ (["true", "True", "TRUE"] : List Text) then some true
  else if s ∈ (["false", "False", "FALSE"] : List Text) then some false
  else none

/-- The value of a digit, of which a letter may have either case. -/
def digitValue? (base : Nat) (c : Char) : Option Nat :=
  let value :=
    if '0' ≤ c ∧ c ≤ '9' then c.toNat - '0'.toNat
    else if 'a' ≤ c ∧ c ≤ 'z' then c.toNat - 'a'.toNat + 10
    else if 'A' ≤ c ∧ c ≤ 'Z' then c.toNat - 'A'.toNat + 10
    else base
  if value < base then some value else none

/-- The number that one or more digits spell. -/
def natural? (base : Nat) (s : Text) : Option Nat :=
  if s.isEmpty then none else s.foldlM (fun n c => (digitValue? base c).map (base * n + ·)) 0

/-- The bases that a number can announce, with the letters that announce them. -/
def announcedBases : List (Text × Nat) := [("0x", 16), ("0o", 8), ("0b", 2)]

/-- The number that digits spell in a base that they announce. -/
def announced? (s : Text) : Option Nat :=
  announcedBases.findSome? fun (letters, base) => (Text.after? letters s).bind (natural? base)

/-- The text without a plus sign in front. -/
def withoutPlus (s : Text) : Text := (Text.after? "+" s).getD s

/-- The text without a sign in front. -/
def withoutSign (s : Text) : Text := (Text.after? "-" s).getD (withoutPlus s)

/-- Two or more digits, the first of which is zero. Such a text is not a number. -/
def hasLeadingZero (s : Text) : Bool :=
  match s with
  | '0' :: c :: rest => (c :: rest).all Text.isAsciiDigit
  | _ => false

/-- The whole number below `limit` that a text without a minus sign spells. -/
def unsigned? (limit : Nat) (s : Text) : Option Nat :=
  let digits := withoutPlus s
  match (announced? digits).filter (· < limit) with
  | some n => some n
  | none => if hasLeadingZero digits then none else (natural? 10 digits).filter (· < limit)

/-- A text after a minus sign spells a whole number of at most `limit`. -/
def isNegative (limit : Nat) (s : Text) : Bool :=
  (Text.after? "-" s).any fun digits =>
    (announced? digits).any (· ≤ limit) ||
      (!hasLeadingZero digits && (natural? 10 digits).any (· ≤ limit))

/-- The digits that come first, and the rest. -/
def spanDigits (s : Text) : Text × Text := s.span Text.isAsciiDigit

/-- The number after the letter that announces an exponent; zero when there is none. -/
def exponent? (s : Text) : Option Int :=
  match s with
  | [] => some 0
  | 'e' :: rest | 'E' :: rest =>
    (natural? 10 (withoutSign rest)).map fun n => if rest.head? = some '-' then -(n : Int) else n
  | _ => none

/-- The size of `significand * 10 ^ exponent` is less than what the greatest floating-point number of
64 bits stands for. -/
def isFinite (significand : Nat) (exponent : Int) : Bool :=
  let bound := Nat.pow 2 1024 - Nat.pow 2 970
  let size := (Text.ofNat significand).length + exponent
  if significand = 0 ∨ size < 300 then true
  else if 310 < size then false
  else if exponent < 0 then significand < bound * Nat.pow 10 exponent.natAbs
  else significand * Nat.pow 10 exponent.natAbs < bound

/-- A text without a sign spells a floating-point number in decimal digits: digits with or without a
point among them, and maybe an exponent. -/
def isDecimal (s : Text) : Bool :=
  let (whole, rest) := spanDigits s
  let (fraction, rest) := match rest with
    | '.' :: more => spanDigits more
    | _ => ([], rest)
  match natural? 10 (whole ++ fraction), exponent? rest with
  | some significand, some exponent => isFinite significand (exponent - fraction.length)
  | _, _ => false

/-- A text without a sign spells infinity. -/
def isInfinity (s : Text) : Bool := s ∈ ([".inf", ".Inf", ".INF"] : List Text)

/-- A text spells a floating-point number. -/
def isFloat (s : Text) : Bool :=
  isInfinity (withoutSign s) || s ∈ ([".nan", ".NaN", ".NAN"] : List Text) ||
    isDecimal (withoutSign s)

/-- A plain scalar with this text is not a text: it is empty, null, a boolean, or has the form of a
number. -/
def isTyped (s : Text) : Bool :=
  s.isEmpty || isNull s || (bool? s).isSome || hasLeadingZero (withoutSign s) ||
    (unsigned? (Nat.pow 2 128) s).isSome || isNegative (Nat.pow 2 127) s || isFloat s

end Yaml

end BlockAudit
