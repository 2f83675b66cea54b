/-!
# The parts of a double

`ofFloat` reads a 64-bit float as what it stands for: not a number, an infinity, a zero, or a sign
with `significand * 2 ^ exponent`. The finite case never has the significand `0`, so a zero has one
form.
-/

namespace CellMarshal.Decimal

/-- What a 64-bit float stands for. -/
inductive Binary where
  | nan
  | infinite (negative : Bool)
  | zero (negative : Bool)
  | finite (negative : Bool) (significand : Nat) (exponent : Int)
  deriving DecidableEq, Repr

namespace Binary

/-- The number of values that a double's fraction field of 52 bits can take. -/
def fractionSize : Nat := 4503599627370496

/-- The weight of the sign bit. -/
def signWeight : Nat := 9223372036854775808

example : fractionSize = 2 ^ 52 ∧ signWeight = 2 ^ 63 := by decide

/-- The value a sign, an exponent field and a fraction field stand for. -/
def ofFields (negative : Bool) (field fraction : Nat) : Binary :=
  if field = 2047 then
    if fraction = 0 then infinite negative else nan
  else if field = 0 then
    if fraction = 0 then zero negative else finite negative fraction (-1074)
  else finite negative (fractionSize + fraction) ((field : Int) - 1075)

/-- The parts of `x`, read from its bits. -/
def ofFloat (x : Float) : Binary :=
  let bits := x.toBits.toNat
  ofFields (decide (signWeight ≤ bits)) (bits / fractionSize % 2048) (bits % fractionSize)

end Binary

end CellMarshal.Decimal
