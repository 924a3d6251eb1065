/-!
# Binary floating point

The finite numbers of the 64-bit binary format, written as a sign, a whole mantissa and a power of
two. Every operation is exact arithmetic on fractions of whole numbers followed by one rounding to
the nearest representable number, a tie going to the even mantissa.
-/

namespace BlockAudit

/-- The number `± mantissa * 2 ^ exponent`. Numbers built by `nearest?` are normalised: the mantissa
has 53 bits, or fewer at the least exponent. -/
structure Binary64 where
  negative : Bool
  mantissa : Nat
  exponent : Int
  deriving DecidableEq, Repr

namespace Binary64

/-- The least power of two. -/
def minExponent : Int := -1074

/-- The greatest power of two. -/
def maxExponent : Int := 971

/-- A fraction of whole numbers; the denominator is meant to be positive. -/
structure Fraction where
  num : Nat
  den : Nat

/-- The fraction divided by a power of two. -/
def Fraction.shift (x : Fraction) (exponent : Int) : Fraction :=
  if 0 ≤ exponent then ⟨x.num, x.den * Nat.pow 2 exponent.toNat⟩
  else ⟨x.num * Nat.pow 2 (-exponent).toNat, x.den⟩

/-- The whole number nearest to a fraction, a tie going to the even one. -/
def Fraction.round (x : Fraction) : Nat :=
  let below := x.num / x.den
  let rest := 2 * (x.num % x.den)
  if rest > x.den ∨ (rest = x.den ∧ below % 2 = 1) then below + 1 else below

/-- The power of two that leaves a quotient of 53 bits, or the least one. -/
def Fraction.scale (x : Fraction) : Int :=
  let guess : Int := (Nat.log2 x.num : Int) - (Nat.log2 x.den : Int) - 53
  let y := x.shift guess
  max minExponent (if Nat.pow 2 53 ≤ y.num / y.den then guess + 1 else guess)

/-- The representable number nearest to a fraction; `none` beyond the finite range. -/
def nearest? (x : Fraction) : Option Binary64 :=
  if x.num = 0 then some ⟨false, 0, minExponent⟩
  else
    let exponent := x.scale
    let mantissa := (x.shift exponent).round
    let (mantissa, exponent) :=
      if mantissa = Nat.pow 2 53 then (Nat.pow 2 52, exponent + 1) else (mantissa, exponent)
    if maxExponent < exponent then none else some ⟨false, mantissa, exponent⟩

/-- The magnitude of a number as a fraction. -/
def magnitude (x : Binary64) : Fraction :=
  if 0 ≤ x.exponent then ⟨x.mantissa * Nat.pow 2 x.exponent.toNat, 1⟩
  else ⟨x.mantissa, Nat.pow 2 (-x.exponent).toNat⟩

/-- The rounded product of two magnitudes. -/
def mul? (x y : Binary64) : Option Binary64 :=
  nearest? ⟨x.magnitude.num * y.magnitude.num, x.magnitude.den * y.magnitude.den⟩

/-- The rounded quotient of two magnitudes. -/
def div? (x y : Binary64) : Option Binary64 :=
  nearest? ⟨x.magnitude.num * y.magnitude.den, x.magnitude.den * y.magnitude.num⟩

end Binary64

end BlockAudit
