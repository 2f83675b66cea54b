import CellMarshal.Registry.Write

/-!
# The references in a cell

`Cell.references` lists the handles of the references in a cell, at any depth, in reading order.
Laying cells out in a grid neither drops nor repeats nor reorders them, whether the grid is a
column, a row, one row for each element filled up with missing cells, or the two columns of a map.

`Value.isNative` tells the values that bring no references of their own: none of their parts is a
reference or a cell. What an object wraps is not looked at, for it is not written. Main statements:
`references_layOut`, `references_layOutRows` and `references_of_isScalar`.
-/

namespace CellMarshal

namespace Cell

/-! ## References at any depth -/

mutual

/-- The handles of the references in a cell, in reading order. -/
def references : Cell → List Handle
  | grid rows => referencesRows rows
  | bag items => referencesRow items
  | reference h _ => [h]
  | _ => []

/-- The handles of the references in a row. -/
def referencesRow : List Cell → List Handle
  | [] => []
  | c :: row => references c ++ referencesRow row

/-- The handles of the references in some rows. -/
def referencesRows : List (List Cell) → List Handle
  | [] => []
  | row :: rows => referencesRow row ++ referencesRows rows

end

/-- The references of a row are those of its cells, in order. -/
theorem referencesRow_eq_flatMap (row : List Cell) : referencesRow row = row.flatMap references := by
  induction row with
  | nil => rfl
  | cons c row ih => rw [referencesRow, ih, List.flatMap_cons]

/-- The references of some rows are those of their cells, row by row. -/
theorem referencesRows_eq_flatMap (rows : List (List Cell)) :
    referencesRows rows = rows.flatten.flatMap references := by
  induction rows with
  | nil => rfl
  | cons row rows ih =>
    rw [referencesRows, ih, referencesRow_eq_flatMap, List.flatten_cons, List.flatMap_append]

/-- The references of a grid are those of its cells, row by row. -/
@[simp] theorem references_grid (rows : List (List Cell)) :
    (grid rows).references = rows.flatten.flatMap references := by
  rw [references, referencesRows_eq_flatMap]

/-- A missing cell has no references. -/
@[simp] theorem references_missing : missing.references = [] := by
  simp [references]

/-- A cell that holds a single value holds no reference. -/
theorem references_of_isScalar {c : Cell} (h : c.kind.isScalar = true) : c.references = [] := by
  cases c <;> simp_all [references, kind, CellKind.isScalar]

/-- A reference has its own handle and no other. -/
@[simp] theorem references_reference (h : Handle) (tag : String) :
    (reference h tag).references = [h] := by
  rw [references]

/-- The empty grid has no references. -/
@[simp] theorem references_emptyGrid : emptyGrid.references = [] := by
  simp [emptyGrid]

/-! ## Grids -/

/-- The references of a column are those of its cells. -/
theorem references_column (cells : List Cell) :
    (column cells).references = cells.flatMap references := by
  cases cells with
  | nil => simp [column_nil]
  | cons c cells =>
    have hsingles : ∀ cs : List Cell, (cs.map fun c => [c]).flatten = cs := by
      intro cs
      induction cs with
      | nil => rfl
      | cons d cs ih => rw [List.map_cons, List.flatten_cons, ih, List.singleton_append]
    rw [column_cons, references_grid, List.flatten_cons, hsingles, List.singleton_append]

/-- The references of a row taken as a grid are those of its cells. -/
theorem references_row (cells : List Cell) : (row cells).references = cells.flatMap references := by
  cases cells with
  | nil => simp [row_nil]
  | cons c cells => simp [row_cons]

/-- Filling a row up adds no references. -/
theorem flatMap_references_padRow (width : Nat) (row : List Cell) :
    (padRow width row).flatMap references = row.flatMap references := by
  have hfill : ∀ n, (List.replicate n missing).flatMap references = [] := by
    intro n
    rw [List.flatMap_eq_nil_iff]
    intro c hc
    rw [List.eq_of_mem_replicate hc, references_missing]
  rw [padRow, List.flatMap_append, hfill, List.append_nil]

/-- Filling rows up does not change the references. -/
theorem references_padded (rows : List (List Cell)) :
    (padded rows).references = rows.flatten.flatMap references := by
  by_cases h : widest rows = 0
  · have hempty : rows.flatten = [] := by
      rw [List.flatten_eq_nil_iff]
      intro row hrow
      exact List.eq_nil_of_length_eq_zero (Nat.le_zero.1 (h ▸ length_le_widest hrow))
    rw [padded_of_widest_eq_zero h, references_emptyGrid, hempty, List.flatMap_nil]
  · have hpad : ∀ (width : Nat) (rows : List (List Cell)),
        (rows.map (padRow width)).flatten.flatMap references =
          rows.flatten.flatMap references := by
      intro width rows
      induction rows with
      | nil => rfl
      | cons row rows ih =>
        simp only [List.map_cons, List.flatten_cons, List.flatMap_append,
          flatMap_references_padRow, ih]
    rw [padded_of_widest_ne_zero h, references_grid, hpad]

end Cell

/-! ## Values without references of their own -/

namespace Value

mutual

/-- Whether no part of a value is a reference or a cell. What an object wraps is no part here. -/
def isNative : Value → Bool
  | handle _ _ | cell _ => false
  | list items | set items | array items => allNative items
  | map entries => allNativeEntries entries
  | _ => true

/-- Whether all of some values are native. -/
def allNative : List Value → Bool
  | [] => true
  | v :: vs => isNative v && allNative vs

/-- Whether the keys and the values of all of some entries are native. -/
def allNativeEntries : List (Value × Value) → Bool
  | [] => true
  | (k, v) :: es => isNative k && isNative v && allNativeEntries es

end

end Value

/-! ## Layouts -/

namespace Writing

open Cell

/-- Taking a cell as one row does not change the references. -/
theorem flatMap_references_asRow (c : Cell) : (asRow c).flatMap references = c.references := by
  cases c with
  | grid rows => rw [asRow, references_grid]
  | _ => simp [asRow]

/-- Laying out keeps the references of the elements, in order. -/
theorem references_layOut (orientation : Orientation) (items : List Value) (cells : List Cell) :
    (layOut orientation items cells).references = cells.flatMap references := by
  unfold layOut
  split
  · have hrows : ∀ cs : List Cell,
        (cs.map asRow).flatten.flatMap references = cs.flatMap references := by
      intro cs
      induction cs with
      | nil => rfl
      | cons c cs ih =>
        rw [List.map_cons, List.flatten_cons, List.flatMap_append, flatMap_references_asRow, ih,
          List.flatMap_cons]
    rw [references_padded, hrows]
  · cases orientation with
    | column => exact references_column cells
    | row => exact references_row cells

/-- Laying out entries does not change the references. -/
theorem references_layOutRows (rows : List (List Cell)) :
    (layOutRows rows).references = rows.flatten.flatMap references := by
  unfold layOutRows
  split
  · rename_i h
    rw [List.isEmpty_iff.1 h, references_emptyGrid]
    rfl
  · exact references_grid rows

end Writing

end CellMarshal
