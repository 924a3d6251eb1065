import BlockAudit.Binary64
import BlockAudit.Text.Basic

/-!
# Shortest decimal digits

The fewest decimal digits that still round to a given number. For one digit, two digits, and so on,
the two neighbours of the number on the grid of decimals with that many digits are tested; the first
grid with a decimal inside the interval that rounds to the number decides, and of two such decimals
the nearer one is taken.
-/

namespace BlockAudit

namespace Binary64

/-- The interval of reals that round to a number, in quarters of its last place. -/
structure Interval where
  low : Nat
  mid : Nat
  high : Nat
  /-- The ends of the interval round to the number, too. -/
  closed : Bool

def interval (x : Binary64) : Interval :=
  let mid := 4 * x.mantissa
  let below := if x.mantissa = Nat.pow 2 52 ∧ minExponent < x.exponent then 1 else 2
  ⟨mid - below, mid, mid + 2, x.mantissa % 2 = 0⟩

/-- Two whole numbers in the ratio of `10 ^ place` and a quarter of the last place. -/
def gridRatio (x : Binary64) (place : Int) : Nat × Nat :=
  let quarter := x.exponent - 2
  (Nat.pow 10 place.toNat * Nat.pow 2 (-quarter).toNat,
    Nat.pow 10 (-place).toNat * Nat.pow 2 quarter.toNat)

/-- The multiple of `10 ^ place` that is nearest to the number, if it rounds to the number. -/
def onGrid? (x : Binary64) (place : Int) : Option Nat :=
  let (ten, quarter) := x.gridRatio place
  let i := x.interval
  let inside (k : Nat) : Bool :=
    let p := k * ten
    if i.closed then i.low * quarter ≤ p && p ≤ i.high * quarter
    else i.low * quarter < p && p < i.high * quarter
  let mid := i.mid * quarter
  let k := mid / ten
  let below := mid - k * ten
  let above := (k + 1) * ten - mid
  match inside k, inside (k + 1) with
  | true, true =>
    if below < above ∨ (below = above ∧ k % 2 = 0) then some k else some (k + 1)
  | true, false => some k
  | false, true => some (k + 1)
  | false, false => none

/-- The place of the leading decimal digit of a number other than zero. -/
def leadingPlace (x : Binary64) : Int :=
  let guess := ((Nat.log2 x.mantissa : Int) + x.exponent) * 30103 / 100000
  let reaches (place : Int) : Bool :=
    let (ten, quarter) := x.gridRatio place
    ten ≤ 4 * x.mantissa * quarter
  if reaches (guess + 1) then guess + 1
  else if reaches guess then guess
  else guess - 1

/-- A whole number without its trailing zeros, and their number. -/
def dropZeros (fuel k : Nat) (place : Int) : Nat × Int :=
  match fuel with
  | 0 => (k, place)
  | fuel + 1 => if k % 10 = 0 ∧ k ≠ 0 then dropZeros fuel (k / 10) (place + 1) else (k, place)

/-- The shortest decimal `k * 10 ^ place` that rounds to a number other than zero. -/
def shortest (x : Binary64) : Nat × Int :=
  let lead := x.leadingPlace
  let grids := (List.range 17).map fun (n : Nat) => lead - n
  match grids.findSome? fun place => (x.onGrid? place).map (·, place) with
  | some (k, place) => dropZeros 20 k place
  | none => (0, 0)

/-- The text of a number: positional from `0.00001` to below `10 ^ 16`, always with a point, and
otherwise a mantissa without trailing zeros and a signed exponent. -/
def toText (x : Binary64) : Text :=
  let sign : Text := if x.negative then ['-'] else []
  if x.mantissa = 0 then sign ++ "0.0"
  else
    let (k, place) := x.shortest
    let digits := Text.ofNat k
    let count := digits.length
    let lead : Int := place + count - 1
    let body : Text :=
      if lead < -5 ∨ 15 < lead then
        let fraction := digits.drop 1
        digits.take 1 ++ (if fraction.isEmpty then [] else '.' :: fraction) ++ ['e'] ++
          (if lead < 0 then ['-'] else ['+']) ++ Text.ofNat lead.natAbs
      else if lead < 0 then
        "0." ++ List.replicate (-lead - 1).toNat '0' ++ digits
      else if place < 0 then
        digits.take (lead.toNat + 1) ++ ['.'] ++ digits.drop (lead.toNat + 1)
      else digits ++ List.replicate place.toNat '0' ++ ".0"
    sign ++ body

end Binary64

end BlockAudit
