/-!
# Doubles and whole numbers

`wholePart` drops the fraction of a double and `clamp` brings a whole number into a range, so that
`clamp lo hi (wholePart x)` is the usual saturating conversion: not-a-number becomes zero and an
infinity becomes the end of the range. `roundHalfAway` rounds a non-negative double to the nearest
whole number. Main statements: `clamp_mem`, `clamp_of_mem`.
-/

namespace CellMarshal.Decimal

/-- The whole part of a double, toward zero. Magnitudes from `2 ^ 64` on come out as `2 ^ 64 - 1`,
and not-a-number as zero. -/
def wholePart (x : Float) : Int :=
  if x < 0 then -((-x).toUInt64.toNat : Int) else x.toUInt64.toNat

/-- The number in `lo … hi` that is nearest to `n`. -/
def clamp (lo hi n : Int) : Int :=
  max lo (min hi n)

/-- A clamped number lies between the bounds. -/
theorem clamp_mem {lo hi : Int} (h : lo ≤ hi) (n : Int) :
    lo ≤ clamp lo hi n ∧ clamp lo hi n ≤ hi := by
  simp only [clamp]
  omega

/-- A number between the bounds is left alone. -/
theorem clamp_of_mem {lo hi n : Int} (hl : lo ≤ n) (hh : n ≤ hi) : clamp lo hi n = n := by
  simp only [clamp]
  omega

/-- The whole number nearest to a double that is not negative; a half goes up. -/
def roundHalfAway (x : Float) : Int :=
  let n := wholePart x
  if 0.5 ≤ x - Float.ofInt n then n + 1 else n

/-- Whether a finite double has no fraction. -/
def isWhole (x : Float) : Bool :=
  x == Float.ofInt (wholePart x)

example : wholePart (-10.7) = -10 ∧ wholePart (0 / 0) = 0 ∧ wholePart 1e300 = 2 ^ 64 - 1 := by
  decide +kernel

example : roundHalfAway 2.5 = 3 ∧ roundHalfAway 0.49999999999999994 = 0 := by decide +kernel

end CellMarshal.Decimal
