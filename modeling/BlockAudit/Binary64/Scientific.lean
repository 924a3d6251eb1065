import BlockAudit.Binary64

/-!
# Decimal significand and exponent

Reads `significand * 10 ^ exponent` by rounding three times at most per factor: the significand, the
power of ten, and their product or quotient. Exponents beyond 308 are taken in steps of `10 ^ 308`.
The result is not always the number nearest to the decimal.
-/

namespace BlockAudit

namespace Binary64

/-- The number nearest to a power of ten. -/
def powerOfTen? (n : Nat) : Option Binary64 := nearest? ⟨Nat.pow 10 n, 1⟩

/-- The number divided by `10 ^ n`, in steps of at most 308 decimal places. -/
def divPowerOfTen? (x : Binary64) (n : Nat) : Option Binary64 :=
  if n ≤ 308 then (powerOfTen? n).bind x.div?
  else if x.mantissa = 0 then some x
  else ((powerOfTen? 308).bind x.div?).bind fun y => divPowerOfTen? y (n - 308)
termination_by n

/-- The number read from a significand and a decimal exponent; `none` beyond the finite range. -/
def ofScientific? (negative : Bool) (significand : Nat) (exponent : Int) : Option Binary64 := do
  let x ← nearest? ⟨significand, 1⟩
  let y ←
    if exponent < 0 then x.divPowerOfTen? (-exponent).toNat
    else if exponent ≤ 308 then (powerOfTen? exponent.toNat).bind x.mul?
    else if x.mantissa = 0 then some x
    else none
  return { y with negative }

end Binary64

end BlockAudit
