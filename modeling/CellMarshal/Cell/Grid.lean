import CellMarshal.Cell.Basic

/-!
# Building grids

Rectangular grids from rows and from plain lists of cells. `grid?` checks rows for their shape and
says what is wrong with them; `column`, `row` and `padded` always give a grid with at least one
cell, the grid of one missing cell where there is nothing to place. `IsRectangular` is the shape
itself. Main statements: `isRectangular_column`, `isRectangular_row`, `isRectangular_padded`, and
`grid?_eq_ok_iff` (the check accepts exactly the rectangular rows).
-/

namespace CellMarshal

/-- Why rows are not a rectangular grid. -/
inductive ShapeFault where
  | noRows
  | emptyRow
  | ragged (row expected found : Nat)
  deriving DecidableEq, Repr

/-- The message for a shape fault. -/
def ShapeFault.message : ShapeFault → String
  | noRows => "array has no rows"
  | emptyRow => "array rows must not be empty"
  | ragged row expected found =>
    "row " ++ toString row ++ " has " ++ toString found ++ " cells, expected " ++ toString expected

namespace Cell

/-- Rows of one common length, with at least one row and one cell in each. -/
def IsRectangular (rows : List (List Cell)) : Prop :=
  ∃ width, 0 < width ∧ rows ≠ [] ∧ ∀ row ∈ rows, row.length = width

/-! ## Checked rows -/

/-- The first row whose length is not `width`, counting rows from `i`. -/
def firstRagged (width : Nat) : Nat → List (List Cell) → Option ShapeFault
  | _, [] => none
  | i, row :: rows =>
    if row.length = width then firstRagged width (i + 1) rows
    else some (.ragged i width row.length)

/-- No row is ragged exactly if all rows have the width. -/
theorem firstRagged_eq_none_iff {width : Nat} {rows : List (List Cell)} (i : Nat) :
    firstRagged width i rows = none ↔ ∀ row ∈ rows, row.length = width := by
  induction rows generalizing i with
  | nil => simp [firstRagged]
  | cons row rows ih =>
    rw [firstRagged]
    split
    · rename_i h
      simp [ih, h]
    · rename_i h
      simp [h]

/-- The grid of some rows, provided they are rectangular. -/
def grid? (rows : List (List Cell)) : Except ShapeFault Cell :=
  match rows with
  | [] => .error .noRows
  | [] :: _ => .error .emptyRow
  | first :: _ =>
    match firstRagged first.length 0 rows with
    | some fault => .error fault
    | none => .ok (grid rows)

/-- The check accepts exactly the rectangular rows. -/
theorem grid?_eq_ok_iff {rows : List (List Cell)} :
    grid? rows = .ok (grid rows) ↔ IsRectangular rows := by
  unfold grid? IsRectangular
  split
  · simp
  · rename_i rest
    constructor
    · intro h; cases h
    · rintro ⟨w, hw, -, h⟩
      have := h [] (by simp)
      simp at this
      omega
  · rename_i first rest hne
    have hpos : 0 < first.length := by
      cases first with
      | nil => exact (hne rfl).elim
      | cons => simp
    split
    · rename_i fault hf
      constructor
      · intro h; cases h
      · rintro ⟨w, hw, -, h⟩
        have hw' : first.length = w := h first (by simp)
        have : firstRagged first.length 0 (first :: rest) = none :=
          (firstRagged_eq_none_iff 0).2 (by rw [hw']; exact h)
        rw [this] at hf
        cases hf
    · rename_i hf
      have := (firstRagged_eq_none_iff 0).1 hf
      exact ⟨fun _ => ⟨_, hpos, by simp, this⟩, fun _ => rfl⟩

/-! ## Vectors -/

/-- One cell per row. -/
def column (cells : List Cell) : Cell :=
  if cells.isEmpty then emptyGrid else grid (cells.map fun c => [c])

/-- All cells in one row. -/
def row (cells : List Cell) : Cell :=
  if cells.isEmpty then emptyGrid else grid [cells]

/-- A column of no cells is the empty grid. -/
theorem column_nil : column [] = emptyGrid := rfl

/-- A row of no cells is the empty grid. -/
theorem row_nil : row [] = emptyGrid := rfl

/-- A column has one cell in each row. -/
theorem column_cons (c : Cell) (cells : List Cell) :
    column (c :: cells) = grid ([c] :: cells.map fun c => [c]) := rfl

/-- A row is a grid of this row alone. -/
theorem row_cons (c : Cell) (cells : List Cell) : row (c :: cells) = grid [c :: cells] := rfl

/-- A column is rectangular. -/
theorem isRectangular_column (cells : List Cell) :
    ∃ rows, column cells = grid rows ∧ IsRectangular rows := by
  cases cells with
  | nil => exact ⟨[[missing]], rfl, 1, by simp⟩
  | cons c cells =>
    refine ⟨_, column_cons c cells, 1, by simp, by simp, ?_⟩
    simp

/-- A row is rectangular. -/
theorem isRectangular_row (cells : List Cell) :
    ∃ rows, row cells = grid rows ∧ IsRectangular rows := by
  cases cells with
  | nil => exact ⟨[[missing]], rfl, 1, by simp⟩
  | cons c cells =>
    refine ⟨_, row_cons c cells, cells.length + 1, by simp, by simp, ?_⟩
    simp

/-! ## Rows of different lengths -/

/-- The length of the longest row. -/
def widest (rows : List (List Cell)) : Nat :=
  rows.foldr (fun row w => max row.length w) 0

/-- No row is wider than the widest one. -/
theorem length_le_widest {row : List Cell} {rows : List (List Cell)} (h : row ∈ rows) :
    row.length ≤ widest rows := by
  induction rows with
  | nil => cases h
  | cons r rows ih =>
    rw [widest, List.foldr_cons]
    rcases List.mem_cons.1 h with rfl | h
    · exact Nat.le_max_left _ _
    · exact Nat.le_trans (ih h) (Nat.le_max_right _ _)

/-- A row filled up to a width with missing cells. -/
def padRow (width : Nat) (row : List Cell) : List Cell :=
  row ++ List.replicate (width - row.length) missing

/-- A row that is filled up has the width it is filled up to. -/
theorem length_padRow {width : Nat} {row : List Cell} (h : row.length ≤ width) :
    (padRow width row).length = width := by
  simp [padRow, h]

/-- Rows filled up to the widest of them. -/
def padded (rows : List (List Cell)) : Cell :=
  if widest rows = 0 then emptyGrid else grid (rows.map (padRow (widest rows)))

/-- Rows without any cells are filled up to the empty grid. -/
theorem padded_of_widest_eq_zero {rows : List (List Cell)} (h : widest rows = 0) :
    padded rows = emptyGrid := by
  simp [padded, h]

/-- Where some row has cells, all rows are filled up to the width of the widest. -/
theorem padded_of_widest_ne_zero {rows : List (List Cell)} (h : widest rows ≠ 0) :
    padded rows = grid (rows.map (padRow (widest rows))) := by
  simp [padded, h]

/-- Padding makes any rows rectangular. -/
theorem isRectangular_padded (rows : List (List Cell)) :
    ∃ rows', padded rows = grid rows' ∧ IsRectangular rows' := by
  by_cases h : widest rows = 0
  · exact ⟨[[missing]], padded_of_widest_eq_zero h, 1, by simp⟩
  · refine ⟨_, padded_of_widest_ne_zero h, widest rows, Nat.pos_of_ne_zero h, ?_, ?_⟩
    · intro hn
      rw [List.map_eq_nil_iff] at hn
      subst hn
      exact h rfl
    · intro r hr
      obtain ⟨s, hs, rfl⟩ := List.mem_map.1 hr
      exact length_padRow (length_le_widest hs)

end Cell

end CellMarshal
