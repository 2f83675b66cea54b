import CellMarshal.Decimal.Shortest

/-!
# Writing numbers

A `Style` says how the digits of a number are laid out: where positional notation ends and whether
a whole number keeps its point. `Style.write` applies it to the shortest decimal of a double. There
are two: `plainStyle` never has an exponent, and `describedStyle` has one for large and for small
numbers.
-/

namespace CellMarshal.Decimal

/-- How a number is laid out. The exponent meant here is the one of the leading digit. -/
structure Style where
  /-- Numbers with a smaller exponent are written with an `e`; `none` for never. -/
  leastPositional : Option Int
  /-- Numbers with a larger exponent are written with an `e`; `none` for never. -/
  mostPositional : Option Int
  /-- Whether a whole number in positional notation ends in `.0`. -/
  pointZero : Bool
  deriving DecidableEq, Repr

namespace Style

/-- Whether a number whose leading digit has this exponent is written without an `e`. -/
def isPositional (style : Style) (leading : Int) : Bool :=
  style.leastPositional.all (· ≤ leading) && style.mostPositional.all (leading ≤ ·)

/-- Digits in positional notation; `point` digits stand before the point. -/
def positional (style : Style) (ds : List Char) (point : Int) : List Char :=
  if point ≤ 0 then
    ['0', '.'] ++ List.replicate (-point).toNat '0' ++ ds
  else if ds.length ≤ point.toNat then
    ds ++ List.replicate (point.toNat - ds.length) '0' ++
      (if style.pointZero then ['.', '0'] else [])
  else ds.take point.toNat ++ '.' :: ds.drop point.toNat

/-- Digits with the point after the first of them, an `e`, and the exponent. -/
def exponential (ds : List Char) (leading : Int) : List Char :=
  ds.take 1 ++ (if ds.length ≤ 1 then [] else '.' :: ds.drop 1) ++ 'e' :: (toString leading).toList

/-- A decimal other than zero. -/
def writeDecimal (style : Style) (d : Scaled) : List Char :=
  let ds := Nat.toDigits 10 d.digits
  let point := d.exponent + ds.length
  if style.isPositional (point - 1) then style.positional ds point else exponential ds (point - 1)

/-- The minus sign of a negative number. -/
def sign (negative : Bool) : List Char :=
  if negative then ['-'] else []

/-- The text of what a double stands for. -/
def writeBinary (style : Style) : Binary → List Char
  | .nan => ['N', 'a', 'N']
  | .infinite negative => sign negative ++ ['i', 'n', 'f']
  | .zero negative => sign negative ++ '0' :: (if style.pointZero then ['.', '0'] else [])
  | .finite negative m q => sign negative ++ style.writeDecimal (shortest m q)

/-- The text of a double. -/
def write (style : Style) (x : Float) : String :=
  String.ofList (style.writeBinary (.ofFloat x))

end Style

/-- Numbers as a cell shows them: every digit in its place, however large or small. -/
def plainStyle : Style := ⟨none, none, false⟩

/-- Numbers inside a described structure: whole numbers keep a point, and the far ends of the range
have an exponent. -/
def describedStyle : Style := ⟨some (-4), some 15, true⟩

example : plainStyle.write 0.1 = "0.1" := by decide +kernel

example : plainStyle.write 1e16 = "10000000000000000" := by decide +kernel

example : plainStyle.write (-0.0) = "-0" := by decide +kernel

example : describedStyle.write 1e16 = "1e16" := by decide +kernel

example : describedStyle.write 0.00015 = "0.00015" := by decide +kernel

example : describedStyle.write 0.000015 = "1.5e-5" := by decide +kernel

example : describedStyle.write 3 = "3.0" := by decide +kernel

end CellMarshal.Decimal
