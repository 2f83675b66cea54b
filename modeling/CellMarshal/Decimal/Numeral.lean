/-!
# Reading numbers

`parse?` reads a whole text as a double: an optional sign, then `inf`, `infinity` or `nan` in any
case, or digits with an optional point and an optional exponent. At least one digit stands on one
side of the point, and the value is the double nearest to the decimal read.
-/

namespace CellMarshal.Decimal

/-- A longest run of ASCII digits, and what follows it. -/
def spanDigits (cs : List Char) : List Char × List Char :=
  (cs.takeWhile Char.isDigit, cs.dropWhile Char.isDigit)

/-- The number a list of ASCII digits denotes. -/
def digitsValue (ds : List Char) : Nat :=
  ds.foldl (fun n d => 10 * n + (d.toNat - '0'.toNat)) 0

/-- A sign, when there is one, and what follows it. -/
def splitSign : List Char → Bool × List Char
  | '-' :: cs => (true, cs)
  | '+' :: cs => (false, cs)
  | cs => (false, cs)

/-- The exponent that ends a numeral: nothing, or an `e` with an optional sign and digits. -/
def exponent? : List Char → Option Int
  | [] => some 0
  | e :: cs =>
    if e = 'e' ∨ e = 'E' then
      let (negative, ds) := splitSign cs
      if ds ≠ [] ∧ ds.all Char.isDigit then
        some (if negative then -(digitsValue ds : Int) else digitsValue ds)
      else none
    else none

/-- The leading digit of the largest finite double stands at `10 ^ 308`. -/
def overflowDigits : Int := 310

/-- Half the least positive double is above `10 ^ -324`. -/
def underflowDigits : Int := -330

/-- The double nearest to `m * 10 ^ e`. Magnitudes that no double comes near are decided by the
number of digits, so that no power of ten beyond the range is ever computed. -/
def nearest (m : Nat) (e : Int) : Float :=
  let size : Int := (Nat.toDigits 10 m).length + e
  if m = 0 then 0
  else if overflowDigits < size then 1 / 0
  else if size < underflowDigits then 0
  else Float.ofScientific m (decide (e < 0)) e.natAbs

/-- A numeral without sign: digits, a point, digits, an exponent; at least one digit. -/
def unsigned? (cs : List Char) : Option Float :=
  let (whole, rest) := spanDigits cs
  let (fraction, rest) :=
    match rest with
    | '.' :: rest => spanDigits rest
    | rest => ([], rest)
  if whole = [] ∧ fraction = [] then none
  else (exponent? rest).map fun e => nearest (digitsValue (whole ++ fraction)) (e - fraction.length)

/-- The words that stand for values without digits. -/
def named? (cs : List Char) : Option Float :=
  let word := String.ofList (cs.map Char.toLower)
  if word = "inf" ∨ word = "infinity" then some (1 / 0)
  else if word = "nan" then some (0 / 0)
  else none

/-- The double a whole text denotes. -/
def parse? (cs : List Char) : Option Float :=
  let (negative, cs) := splitSign cs
  let magnitude := (named? cs).or (unsigned? cs)
  magnitude.map fun x => if negative then -x else x

example : parse? "1e".toList = none ∧ parse? ".".toList = none ∧ parse? "+".toList = none := by
  decide +kernel

example : (parse? "-.5e1".toList).map Float.toBits = some (-5.0 : Float).toBits := by
  decide +kernel

example : (parse? "1e400".toList).map Float.toBits = some (1 / 0 : Float).toBits := by
  decide +kernel

end CellMarshal.Decimal
