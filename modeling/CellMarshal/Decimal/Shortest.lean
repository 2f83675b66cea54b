import CellMarshal.Decimal.Binary

/-!
# Shortest decimals

The reals that round to a given double form an interval around it, ends included exactly when the
significand is even. `shortest` gives the decimal with the fewest digits in that interval: on each
grid of decimals with `1`, `2`, … digits it tests the two neighbours of the double, and the first
grid with a hit wins. Of two hits the nearer counts, and of two equally near ones the larger.
Everything is exact arithmetic on naturals over one denominator.
-/

namespace CellMarshal.Decimal

/-- The decimal `digits * 10 ^ exponent`. -/
structure Scaled where
  digits : Nat
  exponent : Int
  deriving DecidableEq, Repr

/-- A value between two bounds, all three over the denominator `den`. -/
structure Interval where
  low : Nat
  value : Nat
  high : Nat
  den : Nat
  closed : Bool
  deriving DecidableEq, Repr

namespace Interval

/-- The reals that round to `m * 2 ^ q`: half a unit to either side, or a quarter unit below when
`m` is the least significand of its exponent and the doubles below are twice as dense. -/
def around (m : Nat) (q : Int) : Interval :=
  let below := if m = Binary.fractionSize ∧ -1074 < q then 1 else 2
  let up := Nat.pow 2 q.toNat
  { low := (4 * m - below) * up
    value := 4 * m * up
    high := (4 * m + 2) * up
    den := 4 * Nat.pow 2 (-q).toNat
    closed := m % 2 = 0 }

/-- The interval measured in units of `10 ^ k`. -/
def inUnits (i : Interval) (k : Int) : Interval :=
  let shrink := Nat.pow 10 (-k).toNat
  { i with
    low := i.low * shrink
    value := i.value * shrink
    high := i.high * shrink
    den := i.den * Nat.pow 10 k.toNat }

/-- Whether the whole number `c` lies in the interval. -/
def contains (i : Interval) (c : Nat) : Bool :=
  let x := c * i.den
  if i.closed then i.low ≤ x && x ≤ i.high else i.low < x && x < i.high

/-- The whole number in the interval that is nearest to the value, among the value's two
neighbours; the larger one when both are equally near. -/
def pick (i : Interval) : Option Nat :=
  let c := i.value / i.den
  if i.contains c then
    if i.contains (c + 1) && i.den ≤ 2 * (i.value % i.den) then some (c + 1) else some c
  else if i.contains (c + 1) then some (c + 1) else none

/-- The number of decimal digits of a natural. -/
def digitCount (n : Nat) : Nat :=
  (Nat.toDigits 10 n).length

/-- The exponent `e` with `10 ^ (e - 1) ≤ value < 10 ^ e`. The lengths of numerator and
denominator leave two candidates, and one comparison decides. -/
def magnitude (i : Interval) : Int :=
  let e : Int := (digitCount i.value : Int) - digitCount i.den
  if i.den * Nat.pow 10 e.toNat ≤ i.value * Nat.pow 10 (-e).toNat then e + 1 else e

end Interval

/-- The decimal without trailing zeros among its digits; `steps` bounds how many are removed. -/
def Scaled.strip : Nat → Scaled → Scaled
  | 0, d => d
  | steps + 1, d =>
    if d.digits ≠ 0 ∧ d.digits % 10 = 0 then
      Scaled.strip steps ⟨d.digits / 10, d.exponent + 1⟩
    else d

/-- Seventeen digits tell any two doubles apart. -/
def mostDigits : Nat := 17

/-- The decimal of fewest digits that reads back as `m * 2 ^ q`. -/
def shortest (m : Nat) (q : Int) : Scaled :=
  let i := Interval.around m q
  let e := i.magnitude
  let found := (List.range mostDigits).findSome? fun n =>
    let k := e - (n + 1 : Nat)
    (i.inUnits k).pick.map fun c => Scaled.mk c k
  (found.getD ⟨m, 0⟩).strip mostDigits

example : shortest 4503599627370496 (-52) = ⟨1, 0⟩ := by decide +kernel

example : shortest 7205759403792794 (-56) = ⟨1, -1⟩ := by decide +kernel

example : shortest 1 (-1074) = ⟨5, -324⟩ := by decide +kernel

example : shortest 4503599627370496 (-77) = ⟨29802322387695313, -24⟩ := by decide +kernel

end CellMarshal.Decimal
