/-!
# Ranges of characters

A character property is written as the list of its ranges of code points.
-/

namespace BlockAudit

namespace Text

/-- Code points from the first number to the second, both included. -/
abbrev CharRange := Nat × Nat

/-- The code point of `c` lies in one of the ranges. -/
def inRanges (ranges : List CharRange) (c : Char) : Bool :=
  ranges.any fun (lo, hi) => lo ≤ c.toNat && c.toNat ≤ hi

/-- What holds of every ASCII character by its number holds of a character with a small number. -/
theorem of_ascii {P : Char → Prop} (h : ∀ n < 128, P (Char.ofNat n)) {c : Char} (hc : c.toNat < 128) :
    P c := by
  have hof := h c.toNat hc
  rwa [Char.ofNat_toNat] at hof

end Text

end BlockAudit
