import CellMarshal.Text.Blank

/-!
# Error codes

The seven codes a spreadsheet cell can show instead of a value. `ErrorCode.display` writes a code as
the host shows it and `ErrorCode.parse?` reads that text back, whatever its case and padding. Main
statement: `parse?_display` (reading undoes writing).
-/

namespace CellMarshal

/-- A code that a cell shows instead of a value. -/
inductive ErrorCode where
  | null
  | div0
  | value
  | ref
  | name
  | num
  | na
  deriving DecidableEq, Repr

namespace ErrorCode

/-- Every code, in the order in which they are tried. -/
def all : List ErrorCode := [null, div0, value, ref, name, num, na]

/-- The text a cell shows. -/
def display : ErrorCode → String
  | null => "#NULL!"
  | div0 => "#DIV/0!"
  | value => "#VALUE!"
  | ref => "#REF!"
  | name => "#NAME?"
  | num => "#NUM!"
  | na => "#N/A"

/-- The word that names a code inside a described structure. -/
def word : ErrorCode → String
  | null => "Null"
  | div0 => "Div0"
  | value => "Value"
  | ref => "Ref"
  | name => "Name"
  | num => "Num"
  | na => "Na"

/-- A text in lower case, as far as ASCII letters go. -/
def foldCase (cs : List Char) : List Char :=
  cs.map Char.toLower

/-- The code that a text shows, without regard to case and padding. -/
def parse? (s : String) : Option ErrorCode :=
  let needle := foldCase (Text.trimBlank s.toList)
  all.find? fun code => foldCase code.display.toList == needle

/-- Reading undoes writing. -/
theorem parse?_display (code : ErrorCode) : parse? code.display = some code := by
  cases code <;> decide +kernel

end ErrorCode

end CellMarshal
