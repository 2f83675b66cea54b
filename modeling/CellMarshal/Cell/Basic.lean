import CellMarshal.Cell.ErrorCode
import CellMarshal.Cell.Kind

/-!
# Cells

A `Cell` is what a spreadsheet cell or an argument slot can carry across to the objects: a number, a
text, a truth value, a narrow integer, a grid of cells, a reference to an object, an error code,
nothing, or a bag of cells that is passed on as it is. Grids are row by row and are not checked for
shape here; `Cell.Grid` builds rectangular ones.

`Cell.depth` counts how many grids and bags are nested. Main statements: `depth_lt_of_mem_grid` (a
cell of a grid is shallower) and `depth_row_le` (a row of a grid, taken as a grid of its own, is no
deeper), on which every recursion over cells rests.
-/

namespace CellMarshal

/-- The number by which a host names an object it was handed. -/
abbrev Handle := Nat

/-- What a spreadsheet cell or an argument slot can carry. -/
inductive Cell where
  | number (x : Float)
  | text (s : String)
  | boolean (b : Bool)
  | integer (i : Int32)
  | grid (rows : List (List Cell))
  | reference (handle : Handle) (tag : String)
  | error (code : ErrorCode)
  | missing
  | bag (items : List Cell)

namespace Cell

/-! ## Reading a cell -/

/-- The kind of a cell. -/
def kind : Cell → CellKind
  | number _ => .number
  | text _ => .text
  | boolean _ => .boolean
  | integer _ => .integer
  | grid _ => .grid
  | reference _ _ => .reference
  | error _ => .error
  | missing => .missing
  | bag _ => .bag

/-- Whether a cell carries nothing. -/
def isMissing : Cell → Bool
  | missing => true
  | _ => false

/-- The test for missing cells finds them and no others. -/
@[simp] theorem isMissing_iff {c : Cell} : c.isMissing = true ↔ c = missing := by
  cases c <;> simp [isMissing]

/-- Missing cells are the only ones of their kind. -/
@[simp] theorem kind_eq_missing_iff {c : Cell} : c.kind = .missing ↔ c = missing := by
  cases c <;> simp [kind]

/-- The numeric content of a cell as a double. -/
def asNumber? : Cell → Option Float
  | number x => some x
  | integer i => some (Float.ofInt i.toInt)
  | _ => none

/-- The cells of a grid or a bag, row by row; any other cell is its own only cell. -/
def cells : Cell → List Cell
  | grid rows => rows.flatten
  | bag items => items
  | c => [c]

/-- The number of rows, and the length of the first row. A bag is one row, any other cell is one
row of one. -/
def dims : Cell → Nat × Nat
  | grid rows => (rows.length, (rows.head?.map List.length).getD 0)
  | bag items => (1, items.length)
  | _ => (1, 1)

/-- The grid of one missing cell, which stands for a collection without elements. -/
def emptyGrid : Cell := grid [[missing]]

/-- Whether a cell is the grid that stands for a collection without elements. -/
def isEmptyGrid : Cell → Bool
  | grid [[c]] => c.isMissing
  | _ => false

/-- There is one cell that counts as the empty grid. -/
theorem eq_emptyGrid_of_isEmptyGrid {c : Cell} (h : c.isEmptyGrid = true) : c = emptyGrid := by
  unfold isEmptyGrid at h
  split at h
  · rw [isMissing_iff] at h; subst h; rfl
  · cases h

/-! ## Depth -/

mutual

/-- How many grids and bags are nested in a cell. -/
def depth : Cell → Nat
  | grid rows => depthRows rows + 1
  | bag items => depthRow items + 1
  | _ => 0

/-- The depth of the deepest cell of a row. -/
def depthRow : List Cell → Nat
  | [] => 0
  | c :: row => max (depth c) (depthRow row)

/-- The depth of the deepest cell of some rows. -/
def depthRows : List (List Cell) → Nat
  | [] => 0
  | row :: rows => max (depthRow row) (depthRows rows)

end

/-- A cell is no deeper than the row it stands in. -/
theorem depth_le_depthRow {c : Cell} {row : List Cell} (h : c ∈ row) : c.depth ≤ depthRow row := by
  induction row with
  | nil => cases h
  | cons d row ih =>
    rw [depthRow]
    rcases List.mem_cons.1 h with rfl | h
    · exact Nat.le_max_left _ _
    · exact Nat.le_trans (ih h) (Nat.le_max_right _ _)

/-- A row is no deeper than the grid it stands in. -/
theorem depthRow_le_depthRows {row : List Cell} {rows : List (List Cell)} (h : row ∈ rows) :
    depthRow row ≤ depthRows rows := by
  induction rows with
  | nil => cases h
  | cons r rows ih =>
    rw [depthRows]
    rcases List.mem_cons.1 h with rfl | h
    · exact Nat.le_max_left _ _
    · exact Nat.le_trans (ih h) (Nat.le_max_right _ _)

/-- A cell of a grid is shallower than the grid. -/
theorem depth_lt_of_mem_grid {c : Cell} {row : List Cell} {rows : List (List Cell)}
    (hc : c ∈ row) (hr : row ∈ rows) : c.depth < (grid rows).depth := by
  rw [depth.eq_1]
  exact Nat.lt_succ_of_le (Nat.le_trans (depth_le_depthRow hc) (depthRow_le_depthRows hr))

/-- A row of a grid, taken as a grid of its own, is no deeper than the grid. -/
theorem depth_row_le {row : List Cell} {rows : List (List Cell)} (h : row ∈ rows) :
    (grid [row]).depth ≤ (grid rows).depth := by
  simp only [depth, depthRows, Nat.max_zero]
  exact Nat.succ_le_succ (depthRow_le_depthRows h)

end Cell

end CellMarshal
