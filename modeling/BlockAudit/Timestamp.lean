import BlockAudit.Text.Basic

/-!
# Timestamps

The date and time of a report, in coordinated universal time and with nanoseconds. A timestamp is
read from the usual form with a date, a time and an offset, generously: white space may stand between
the parts, and the numbers may have fewer digits. It is printed in one form only.
-/

namespace BlockAudit

/-- A date and time of day in coordinated universal time. A leap second has the number 60. -/
structure Timestamp where
  year : Int
  month : Nat
  day : Nat
  hour : Nat
  minute : Nat
  second : Nat
  nanosecond : Nat
  deriving DecidableEq

namespace Timestamp

/-- The years that a date can have. -/
def isYear (year : Int) : Bool := -262143 ≤ year && year ≤ 262142

/-- The year has a 29th of February. -/
def isLeapYear (year : Int) : Bool :=
  year % 4 == 0 && (year % 100 != 0 || year % 400 == 0)

/-- The number of days of a month. -/
def daysIn (year : Int) (month : Nat) : Nat :=
  if month = 2 then if isLeapYear year then 29 else 28
  else if month ∈ [4, 6, 9, 11] then 30
  else 31

/-- The timestamp at the same time of the next day. -/
def nextDay (t : Timestamp) : Timestamp :=
  if t.day < daysIn t.year t.month then { t with day := t.day + 1 }
  else if t.month < 12 then { t with month := t.month + 1, day := 1 }
  else { t with year := t.year + 1, month := 1, day := 1 }

/-- The timestamp at the same time of the day before. -/
def previousDay (t : Timestamp) : Timestamp :=
  if 1 < t.day then { t with day := t.day - 1 }
  else if 1 < t.month then { t with month := t.month - 1, day := daysIn t.year (t.month - 1) }
  else { t with year := t.year - 1, month := 12, day := 31 }

/-- The timestamp of a local date and time that is the given number of minutes, less than a day, ahead
of universal time. -/
def ofLocal (t : Timestamp) (offset : Int) : Timestamp :=
  let minutes : Int := t.hour * 60 + t.minute - offset
  let shifted := if minutes < 0 then t.previousDay else if minutes < 1440 then t else t.nextDay
  let minuteOfDay := (minutes % 1440).toNat
  { shifted with hour := minuteOfDay / 60, minute := minuteOfDay % 60 }

/-- The parts of the local date and time exist. -/
def isValid (t : Timestamp) : Bool :=
  isYear t.year && 1 ≤ t.month && t.month ≤ 12 && 1 ≤ t.day && t.day ≤ daysIn t.year t.month &&
    t.hour < 24 && t.minute < 60 && t.second ≤ 60

/-- The number that digits spell. -/
def digitsValue (digits : Text) : Nat :=
  digits.foldl (fun n c => 10 * n + (c.toNat - '0'.toNat)) 0

/-- A number of at least one and at most `width` digits, after white space. -/
def number? (width : Nat) (s : Text) : Option (Nat × Text) :=
  let s := Text.trimStart s
  let digits := (s.take width).takeWhile Char.isDigit
  if digits.isEmpty then none else some (digitsValue digits, s.drop digits.length)

/-- A year: any number of digits after a sign, at most four without one. -/
def year? (s : Text) : Option (Int × Text) :=
  match Text.trimStart s with
  | '-' :: rest =>
    if rest.head?.any Char.isDigit then
      (number? rest.length rest).map fun (n, rest) => (-(n : Int), rest)
    else none
  | '+' :: rest =>
    if rest.head?.any Char.isDigit then
      (number? rest.length rest).map fun (n, rest) => ((n : Int), rest)
    else none
  | s => (number? 4 s).map fun (n, rest) => ((n : Int), rest)

/-- A given character after white space. -/
def mark? (c : Char) (s : Text) : Option Text := Text.after? [c] (Text.trimStart s)

/-- The nanoseconds after the seconds: a point and digits, of which nine count. -/
def fraction? : Text → Option (Nat × Text)
  | '.' :: s =>
    let digits := s.takeWhile Char.isDigit
    if digits.isEmpty then none
    else
      let counted := digits.take 9
      some (digitsValue counted * Nat.pow 10 (9 - counted.length), s.drop digits.length)
  | s => some (0, s)

/-- Two digits. -/
def twoDigits? : Text → Option (Nat × Text)
  | a :: b :: rest => if a.isDigit && b.isDigit then some (digitsValue [a, b], rest) else none
  | _ => none

/-- The minutes that local time is ahead of universal time: a letter Z, the word UTC, or a sign with
hours and minutes. -/
def offset? (s : Text) : Option (Int × Text) :=
  match s with
  | 'Z' :: rest | 'z' :: rest => some (0, rest)
  | _ =>
    if (s.take 3).map Char.toUpper = "UTC".toList then some (0, s.drop 3)
    else do
      let (sign, rest) ← match s with
        | '+' :: rest => some ((1 : Int), rest)
        | '-' :: rest | '−' :: rest => some (-1, rest)
        | _ => none
      let (hours, rest) ← twoDigits? rest
      let (minutes, rest) ← twoDigits? (rest.dropWhile fun c => c == ':' || Text.isBlank c)
      if hours < 24 ∧ minutes < 60 then some (sign * (hours * 60 + minutes), rest) else none

/-- Reads a timestamp with any offset. -/
def parse? (s : Text) : Option Timestamp := do
  let (year, s) ← year? s
  let (month, s) ← number? 2 (← mark? '-' s)
  let (day, s) ← number? 2 (← mark? '-' s)
  let s ← match s with
    | 'T' :: rest | 't' :: rest | ' ' :: rest => some rest
    | _ => none
  let (hour, s) ← number? 2 s
  let (minute, s) ← number? 2 (← mark? ':' s)
  let (second, s) ← number? 2 (← mark? ':' s)
  let (nanosecond, s) ← fraction? s
  let (offset, s) ← offset? (Text.trimStart s)
  let localTime : Timestamp := ⟨year, month, day, hour, minute, second, nanosecond⟩
  let timestamp := localTime.ofLocal offset
  if (Text.trimStart s).isEmpty ∧ localTime.isValid ∧ isYear timestamp.year then some timestamp
  else none

/-- The date of a day, counted from the first of January 1970. A year is counted from the first of March,
so that the day that leap years add is its last one. -/
def dateOfDay (day : Nat) : Int × Nat × Nat :=
  let shifted := day + 719468
  let era := shifted / 146097
  let dayOfEra := shifted % 146097
  let yearOfEra := (dayOfEra - dayOfEra / 1460 + dayOfEra / 36524 - dayOfEra / 146096) / 365
  let dayOfYear := dayOfEra - (365 * yearOfEra + yearOfEra / 4 - yearOfEra / 100)
  let monthFromMarch := (5 * dayOfYear + 2) / 153
  let dayOfMonth := dayOfYear - (153 * monthFromMarch + 2) / 5 + 1
  let month := if monthFromMarch < 10 then monthFromMarch + 3 else monthFromMarch - 9
  (((era * 400 + yearOfEra + if month ≤ 2 then 1 else 0 : Nat) : Int), month, dayOfMonth)

/-- The timestamp a number of nanoseconds after the beginning of 1970. -/
def ofNanoseconds (n : Nat) : Timestamp :=
  let seconds := n / 1000000000
  let (year, month, day) := dateOfDay (seconds / 86400)
  ⟨year, month, day, seconds / 3600 % 24, seconds / 60 % 60, seconds % 60, n % 1000000000⟩

/-- The printed year: four digits, or a sign and at least four digits beyond those. -/
def yearText (year : Int) : Text :=
  let digits := Text.ofNatPadded 10 4 year.natAbs
  if year < 0 then '-' :: digits else if year ≤ 9999 then digits else '+' :: digits

/-- The printed fraction of a second, in thousandths, millionths or billionths. -/
def fractionText (nanosecond : Nat) : Text :=
  if nanosecond = 0 then []
  else if nanosecond % 1000000 = 0 then '.' :: Text.ofNatPadded 10 3 (nanosecond / 1000000)
  else if nanosecond % 1000 = 0 then '.' :: Text.ofNatPadded 10 6 (nanosecond / 1000)
  else '.' :: Text.ofNatPadded 10 9 nanosecond

/-- The printed timestamp. -/
def toText (t : Timestamp) : Text :=
  let two (n : Nat) : Text := Text.ofNatPadded 10 2 n
  yearText t.year ++ ['-'] ++ two t.month ++ ['-'] ++ two t.day ++ ['T'] ++ two t.hour ++ [':'] ++
    two t.minute ++ [':'] ++ two t.second ++ fractionText t.nanosecond ++ ['Z']

end Timestamp

end BlockAudit
