/-!
# Kinds of cells

The nine kinds of value a cell or an argument slot can carry, without the value. A kind is half of
what selects a converter.
-/

namespace CellMarshal

/-- The kind of a cell. -/
inductive CellKind where
  | number
  | text
  | boolean
  | integer
  | grid
  | reference
  | error
  | missing
  | bag
  deriving DecidableEq, Repr

namespace CellKind

/-- Every kind. -/
def all : List CellKind :=
  [number, text, boolean, integer, grid, reference, error, missing, bag]

/-- The word for a kind in messages. -/
def word : CellKind → String
  | number => "number"
  | text => "text"
  | boolean => "boolean"
  | integer => "integer"
  | grid => "array"
  | reference => "object"
  | error => "error"
  | missing => "missing"
  | bag => "multi"

/-- The kinds that a single spreadsheet cell can hold. -/
def isScalar : CellKind → Bool
  | number | text | boolean | integer | error => true
  | grid | reference | missing | bag => false

/-- Two kinds have two words. -/
theorem word_injective {a b : CellKind} (h : a.word = b.word) : a = b := by
  revert h
  cases a <;> cases b <;> decide

end CellKind

end CellMarshal
