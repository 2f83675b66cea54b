import CellMarshal.Converter.Basic
import CellMarshal.Decimal.Layout
import CellMarshal.Decimal.Numeral
import CellMarshal.Decimal.Whole
import CellMarshal.Failure
import CellMarshal.Serial
import CellMarshal.Text.Blank
import CellMarshal.Text.Quoted
import CellMarshal.Value.Instance

/-!
# Reading and writing single cells

The conversions of numbers, truth values, texts, characters and dates, each as a reading of a cell
and a writing of a value. Numbers are cast: toward zero, to the nearest end of the range where they
do not fit, and not-a-number to zero. Main statements: the equations of `readNumeric`
(`readNumeric_of_number`, `readNumeric_of_integer`) and of `writeNumeric`
(`writeNumeric_of_number`, `writeNumeric_of_integer`).
-/

namespace CellMarshal

namespace Failure

/-- A cell of another kind than the one that is read. -/
def unexpectedCell (expected : CellKind) (found : Cell) : Failure :=
  .typeMismatch expected.word found.kind.word

/-- A value of another type than the one that is written. -/
def unexpectedValue (expected : String) (found : Value) : Failure :=
  .typeMismatch expected found.typeName

end Failure

namespace Scalar

/-! ## Numbers -/

/-- A double as a value of a primitive type. A truth value is whether the number differs from zero,
and a character is the one with the number as its code point, where there is one. -/
def cast (p : Primitive) (x : Float) : Value :=
  let n := Decimal.wholePart x
  match p with
  | .byte => .byte (Int8.ofInt (Decimal.clamp (-128) 127 n))
  | .short => .short (Int16.ofInt (Decimal.clamp (-32768) 32767 n))
  | .int => .int (Int32.ofInt (Decimal.clamp (-2147483648) 2147483647 n))
  | .long => .long (Int64.ofInt (Decimal.clamp (-9223372036854775808) 9223372036854775807 n))
  | .float => .float x.toFloat32
  | .double => .double x
  | .boolean => .boolean (x != 0)
  | .char => .char (Char.ofNat (Decimal.clamp 0 4294967295 n).toNat)

/-- A double as a narrow integer. -/
def toInteger (x : Float) : Int32 :=
  Int32.ofInt (Decimal.clamp (-2147483648) 2147483647 (Decimal.wholePart x))

/-- Reads a number or a narrow integer; the latter is exact for the widest integer type. -/
def readNumeric (p : Primitive) (c : Cell) : Except Failure Value :=
  match c.asNumber? with
  | none => .error (.unexpectedCell .number c)
  | some x =>
    match c, p with
    | .integer i, .long => .ok (.long i.toInt64)
    | _, _ => .ok (cast p x)

/-- Writes a number, cast to the primitive type first, as a cell of the given kind. -/
def writeNumeric (p : Primitive) (kind : CellKind) (v : Value) : Except Failure Cell :=
  match v.asNumber? with
  | none => .error (.unexpectedValue p.boxName v)
  | some x =>
    let y := ((cast p x).asNumber?).getD x
    match kind with
    | .integer => .ok (.integer (toInteger y))
    | _ => .ok (.number y)

/-- A number is read by a cast. -/
theorem readNumeric_of_number (p : Primitive) (x : Float) :
    readNumeric p (.number x) = .ok (cast p x) := rfl

/-- A narrow integer is read by a cast of the number that it holds; long integers alone take it as
it stands. -/
theorem readNumeric_of_integer {p : Primitive} (h : p ≠ .long) (i : Int32) :
    readNumeric p (.integer i) = .ok (cast p (Float.ofInt i.toInt)) := by
  cases p <;> first | rfl | exact absurd rfl h

/-- A number is cast and written as a numeric cell, unless a narrow integer is asked for. -/
theorem writeNumeric_of_number {p : Primitive} {kind : CellKind} {v : Value} {x : Float}
    (hv : v.asNumber? = some x) (hk : kind ≠ .integer) :
    writeNumeric p kind v = .ok (.number (((cast p x).asNumber?).getD x)) := by
  simp only [writeNumeric, hv]

/-- For a cell that holds a narrow integer the number is cast once more. -/
theorem writeNumeric_of_integer {p : Primitive} {v : Value} {x : Float}
    (hv : v.asNumber? = some x) :
    writeNumeric p .integer v = .ok (.integer (toInteger (((cast p x).asNumber?).getD x))) := by
  simp only [writeNumeric, hv]

/-! ## Truth values -/

/-- Reads a truth value. -/
def readLogical : Cell → Except Failure Value
  | .boolean b => .ok (.boolean b)
  | c => .error (.unexpectedCell .boolean c)

/-- Writes a truth value. -/
def writeLogical : Value → Except Failure Cell
  | .boolean b => .ok (.boolean b)
  | v => .error (.unexpectedValue "Boolean" v)

/-- Every number but zero is true. -/
def readLogicalNumeric (c : Cell) : Except Failure Value :=
  match c.asNumber? with
  | some x => .ok (.boolean (x != 0))
  | none => .error (.unexpectedCell .number c)

/-- True is written as one and false as zero. -/
def writeLogicalNumeric : Value → Except Failure Cell
  | .boolean b => .ok (.number (if b then 1 else 0))
  | v => .error (.unexpectedValue "Boolean" v)

/-! ## Texts -/

/-- Reads a text. -/
def readText : Cell → Except Failure Value
  | .text s => .ok (.string s)
  | c => .error (.unexpectedCell .text c)

/-- A character is written as a text of one character. -/
def writeText : Value → Except Failure Cell
  | .string s => .ok (.text s)
  | .char c => .ok (.text (String.singleton c))
  | v => .error (.unexpectedValue "String" v)

/-- The text of a number: whole numbers below `10 ^ 15` as integers, so that there is no negative
zero, and others as a cell shows them. -/
def numberText (x : Float) : String :=
  if x.isFinite && Decimal.isWhole x && x.abs < 1e15 then toString (Decimal.wholePart x)
  else Decimal.plainStyle.write x

/-- Reads a number as its text. -/
def readTextNumeric (c : Cell) : Except Failure Value :=
  match c.asNumber? with
  | some x => .ok (.string (numberText x))
  | none => .error (.unexpectedCell .number c)

/-- A text is written as the number that it holds between blanks. -/
def writeTextNumeric : Value → Except Failure Cell
  | .string s =>
    match Decimal.parse? (Text.trimBlank s.toList) with
    | some x => .ok (.number x)
    | none => .error (.typeMismatch "numeric text" (Text.quote s))
  | v => .error (.unexpectedValue "String" v)

/-- Reads a text of one character. -/
def readCharText : Cell → Except Failure Value
  | .text s =>
    match s.toList with
    | [c] => .ok (.char c)
    | _ => .error (.typeMismatch "single-character text" (Text.quote s))
  | c => .error (.unexpectedCell .text c)

/-- Writes a character as a text of one character. -/
def writeCharText : Value → Except Failure Cell
  | .char c => .ok (.text (String.singleton c))
  | v => .error (.unexpectedValue "Character" v)

/-! ## Dates -/

/-- The moment a numeric cell stands for as a serial. -/
def readSerial (c : Cell) : Except Failure DateTime :=
  match c.asNumber? with
  | none => .error (.unexpectedCell .number c)
  | some x =>
    match Serial.toDateTime? x with
    | some t => .ok t
    | none => .error (.typeMismatch "date serial" (Decimal.plainStyle.write x))

/-- Reads a serial as its date; the time of day is dropped. -/
def readDate (c : Cell) : Except Failure Value :=
  (readSerial c).map fun t => .date t.date

/-- Writes a date as its serial. -/
def writeDate : Value → Except Failure Cell
  | .date d => .ok (.number (Serial.ofDate d))
  | v => .error (.unexpectedValue "Date" v)

/-- Reads a serial as the moment it stands for. -/
def readDateTime (c : Cell) : Except Failure Value :=
  (readSerial c).map .dateTime

/-- A date is written as its first moment. -/
def writeDateTime : Value → Except Failure Cell
  | .dateTime t => .ok (.number (Serial.ofDateTime t))
  | .date d => .ok (.number (Serial.ofDate d))
  | v => .error (.unexpectedValue "DateTime" v)

end Scalar

end CellMarshal
