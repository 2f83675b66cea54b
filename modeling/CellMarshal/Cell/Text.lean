import CellMarshal.Cell.Basic
import CellMarshal.Text.Quoted
import CellMarshal.Decimal.Layout

/-!
# The text of a cell

`Cell.display` is what a host would show for a cell; grids and bags show their structure, which
`Cell.describe` writes with the form of every cell named and every text quoted.
-/

namespace CellMarshal.Cell

/-- Items between square brackets, divided by a comma and a blank. -/
def bracketed (items : List String) : String :=
  "[" ++ String.intercalate ", " items ++ "]"

/-- The word for a truth value inside a described structure. -/
def truthWord (b : Bool) : String :=
  if b then "true" else "false"

mutual

/-- A cell with its form named and its content in brackets or braces. -/
def describe : Cell → String
  | number x => "Number(" ++ Decimal.describedStyle.write x ++ ")"
  | text s => "Text(" ++ Text.quote s ++ ")"
  | boolean b => "Boolean(" ++ truthWord b ++ ")"
  | integer i => "IntegerCell(" ++ toString i.toInt ++ ")"
  | grid rows => "Array(" ++ bracketed (describeRows rows) ++ ")"
  | reference h t =>
    "ObjectRef \x7b handle: " ++ toString h ++ ", tag: " ++ Text.quote t ++ " \x7d"
  | error e => "Error(" ++ e.word ++ ")"
  | missing => "Missing"
  | bag items => "Multi(" ++ bracketed (describeRow items) ++ ")"

/-- The descriptions of some cells. -/
def describeRow : List Cell → List String
  | [] => []
  | c :: row => describe c :: describeRow row

/-- The descriptions of some rows, each between brackets. -/
def describeRows : List (List Cell) → List String
  | [] => []
  | row :: rows => bracketed (describeRow row) :: describeRows rows

end

/-- The text a host shows for a cell. -/
def display : Cell → String
  | number x => Decimal.plainStyle.write x
  | text s => s
  | boolean b => if b then "TRUE" else "FALSE"
  | integer i => toString i.toInt
  | grid rows => bracketed (describeRows rows)
  | reference h t => t ++ "#" ++ toString h
  | error e => e.display
  | missing => ""
  | bag items => bracketed (describeRow items)

end CellMarshal.Cell
