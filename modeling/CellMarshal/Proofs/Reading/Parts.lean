import CellMarshal.Proofs.Traversal
import CellMarshal.Registry.Read

/-!
# What a reading comes down to

A converter for a container takes a grid apart: into its cells, or into its rows as grids of their
own where the elements are containers themselves, each part to be read for a type that the slot
declares. `Reading.parts` lists the parts in the order in which they are read, and each converter
for a container reads what it reads part by part (`readItems_grid`, `readOpenArray_grid`,
`readMap_grid`). A registry looks up a converter for each part, which takes the part apart in turn;
`Registry.Reads` says that a reading comes down to another one after any number of such steps.
-/

namespace CellMarshal

/-! ## What lies within a cell -/

/-- A cell lies in a grid, at any depth. -/
inductive Cell.Inside (d : Cell) : Cell → Prop
  | here {row : List Cell} {rows : List (List Cell)} (hrow : row ∈ rows) (hd : d ∈ row) :
      Inside d (grid rows)
  | deeper {e : Cell} {row : List Cell} {rows : List (List Cell)} (hrow : row ∈ rows)
      (he : e ∈ row) (h : Inside d e) : Inside d (grid rows)

/-- What lies in a row of a grid lies in the grid. -/
theorem Cell.Inside.of_row {d : Cell} {row : List Cell} {rows : List (List Cell)}
    (h : Inside d (grid [row])) (hrow : row ∈ rows) : Inside d (grid rows) := by
  cases h with
  | here hr hd => exact .here hrow (List.mem_singleton.1 hr ▸ hd)
  | deeper hr he h => exact .deeper hrow (List.mem_singleton.1 hr ▸ he) h

/-- A cell in which another one lies is a grid. -/
theorem Cell.Inside.kind_eq_grid {d c : Cell} (h : Inside d c) : c.kind = .grid := by
  cases h <;> rfl

namespace Reading

/-! ## The parts of a grid -/

/-- The parts of a grid for a sequence declared as `target`: one for each row where the elements are
containers, and one for each cell otherwise. -/
def itemParts (target : DeclType) (rows : List (List Cell)) : List (DeclType × Cell) :=
  if (elementType target).isContainer then rows.map fun row => (elementType target, .grid [row])
  else rows.flatten.map fun d => (elementType target, d)

/-- The parts of one row of a map: its key and its value. -/
def entryParts (target : DeclType) : List Cell → List (DeclType × Cell)
  | [k, v] => [((entryTypes target).1, k), ((entryTypes target).2, v)]
  | _ => []

/-- The parts that a form takes a cell apart into, each with the type that it is read for. The grid
that stands for no elements has none. -/
def parts (form : ConverterForm) (target : DeclType) : Cell → List (DeclType × Cell)
  | .grid rows =>
    if (Cell.grid rows).isEmptyGrid then []
    else
      match form with
      | .list | .set => itemParts target rows
      | .array =>
        if target.isArray then itemParts target rows else rows.flatten.map fun d => (.object, d)
      | .map => if (Cell.grid rows).dims.2 = 2 then rows.flatMap (entryParts target) else []
      | _ => []
  | _ => []

/-- Reads a part. -/
def readPart (inner : Inner) (part : DeclType × Cell) : Except Failure Value :=
  readElement inner part.1 part.2

variable {a : Arena} {inner : Inner} {form : ConverterForm} {target : DeclType} {c : Cell}
  {rows : List (List Cell)}

/-- The grid that stands for no elements has no parts. -/
theorem parts_of_isEmptyGrid (h : c.isEmptyGrid = true) : parts form target c = [] := by
  rw [Cell.eq_emptyGrid_of_isEmptyGrid h]
  rfl

/-- A list or a set has the parts of a sequence. -/
theorem parts_grid_of_sequence (h : form = .list ∨ form = .set)
    (hrows : (Cell.grid rows).isEmptyGrid = false) :
    parts form target (.grid rows) = itemParts target rows := by
  rcases h with rfl | rfl <;> simp [parts, hrows]

/-- An array has the parts of a sequence where it is declared as one, and its cells, as objects,
otherwise. -/
theorem parts_grid_of_array (hrows : (Cell.grid rows).isEmptyGrid = false) :
    parts .array target (.grid rows) =
      if target.isArray then itemParts target rows else rows.flatten.map fun d => (.object, d) := by
  simp [parts, hrows]

/-- A map has the parts of all its rows. -/
theorem parts_grid_of_map (hrows : (Cell.grid rows).isEmptyGrid = false)
    (hdims : (Cell.grid rows).dims.2 = 2) :
    parts .map target (.grid rows) = rows.flatMap (entryParts target) := by
  simp [parts, hrows, hdims]

/-- A row that is a grid of its own is never missing, so it is read as it is. -/
theorem readPart_row (t : DeclType) (row : List Cell) :
    readPart inner (t, .grid [row]) = inner t (.grid [row]) := by
  simp [readPart, readElement, Cell.isMissing]

/-- **The elements of a sequence are read part by part.** -/
theorem readItems_grid (hrows : (Cell.grid rows).isEmptyGrid = false) :
    readItems inner target (.grid rows) = (itemParts target rows).mapM (readPart inner) := by
  simp only [readItems, hrows, itemParts, Bool.false_eq_true, if_false]
  split
  · rw [List.mapM_map]
    exact mapM_congr fun row _ => (readPart_row _ row).symm
  · rw [List.mapM_map]
    rfl

/-! ## Where parts come from -/

/-- What a part of a cell is: a cell of the grid, for a type no larger, or a row of the grid that is
to be read as a container, for a smaller type. -/
inductive IsPart (t target : DeclType) : Cell → Cell → Prop
  | cell {row : List Cell} {rows : List (List Cell)} {d : Cell} (hsize : t.size ≤ target.size)
      (hrow : row ∈ rows) (hd : d ∈ row) : IsPart t target d (.grid rows)
  | row {row : List Cell} {rows : List (List Cell)} (hcontainer : t.isContainer = true)
      (hsize : t.size < target.size) (hrow : row ∈ rows) : IsPart t target (.grid [row]) (.grid rows)

/-- A cell of the grid, for a type no larger, is a part. -/
theorem IsPart.of_mem_flatten {t : DeclType} {d : Cell} (hsize : t.size ≤ target.size)
    (hd : d ∈ rows.flatten) : IsPart t target d (.grid rows) := by
  obtain ⟨row, hrow, hd⟩ := List.mem_flatten.1 hd
  exact .cell hsize hrow hd

/-- The parts of a sequence are parts: cells, or rows that are read as containers. -/
theorem isPart_of_mem_itemParts {t : DeclType} {d : Cell} (h : (t, d) ∈ itemParts target rows) :
    IsPart t target d (.grid rows) := by
  unfold itemParts at h
  split at h
  · rename_i hcontainer
    obtain ⟨row, hrow, heq⟩ := List.mem_map.1 h
    cases heq
    exact .row hcontainer (size_elementType_lt hcontainer) hrow
  · obtain ⟨d', hd, heq⟩ := List.mem_map.1 h
    cases heq
    exact .of_mem_flatten (size_elementType_le target) hd

/-- The parts of an entry are cells of the grid. -/
theorem isPart_of_mem_entryParts {t : DeclType} {d : Cell} {row : List Cell}
    (h : (t, d) ∈ entryParts target row) (hrow : row ∈ rows) : IsPart t target d (.grid rows) := by
  have hsize := size_entryTypes_le target
  unfold entryParts at h
  split at h
  · simp only [List.mem_cons, Prod.mk.injEq, List.not_mem_nil, or_false] at h
    rcases h with ⟨rfl, rfl⟩ | ⟨rfl, rfl⟩
    · exact .cell hsize.1 hrow (by simp)
    · exact .cell hsize.2 hrow (by simp)
  · cases h

/-- Whatever a form takes a cell apart into is a part of it. -/
theorem isPart_of_mem_parts {t : DeclType} {d : Cell} (h : (t, d) ∈ parts form target c) :
    IsPart t target d c := by
  cases c with
  | grid rows =>
    cases hempty : (Cell.grid rows).isEmptyGrid with
    | true =>
      rw [parts_of_isEmptyGrid hempty] at h
      cases h
    | false =>
      cases form with
      | list =>
        rw [parts_grid_of_sequence (Or.inl rfl) hempty] at h
        exact isPart_of_mem_itemParts h
      | set =>
        rw [parts_grid_of_sequence (Or.inr rfl) hempty] at h
        exact isPart_of_mem_itemParts h
      | array =>
        rw [parts_grid_of_array hempty] at h
        split at h
        · exact isPart_of_mem_itemParts h
        · obtain ⟨d', hd, heq⟩ := List.mem_map.1 h
          cases heq
          exact .of_mem_flatten target.size_pos hd
      | map =>
        by_cases hdims : (Cell.grid rows).dims.2 = 2
        · rw [parts_grid_of_map hempty hdims] at h
          obtain ⟨row, hrow, h⟩ := List.mem_flatMap.1 h
          exact isPart_of_mem_entryParts h hrow
        · simp [parts, hdims] at h
      | _ => simp [parts] at h
  | _ => cases h

/-- What is a part, or lies within one, lies within the cell; rows are left out, which are grids. -/
theorem IsPart.inside {t : DeclType} {b d : Cell} (h : IsPart t target b c) (hd : d.kind ≠ .grid)
    (hin : d = b ∨ d.Inside b) : d.Inside c := by
  cases h with
  | cell _ hrow hb =>
    rcases hin with rfl | hin
    · exact .here hrow hb
    · exact .deeper hrow hb hin
  | row _ _ hrow =>
    rcases hin with rfl | hin
    · exact absurd rfl hd
    · exact hin.of_row hrow

/-- The readings of parts are inner readings. -/
theorem IsPart.isInner {t : DeclType} {d : Cell} (h : IsPart t target d c) :
    IsInner t d target c := by
  cases h with
  | cell hsize hrow hd => exact isInner_cell (List.mem_flatten.2 ⟨_, hrow, hd⟩) hsize
  | row _ hsize hrow => exact isInner_row hrow hsize

end Reading

namespace Registry

variable {r : Registry} {t e : DeclType} {c d : Cell}

/-! ## Readings within readings -/

/-- Reading the cell `c` for the type `t` comes down to reading `d` for `e`, by way of the
converters that the registry finds for what lies between. -/
inductive Reads (r : Registry) (e : DeclType) (d : Cell) : DeclType → Cell → Prop
  | self : Reads r e d e d
  | part {t s : DeclType} {b c : Cell} {k : Converter} (hk : r.reader? t c.kind = some k)
      (hpart : (s, b) ∈ Reading.parts k.form t c) (h : Reads r e d s b) : Reads r e d t c

/-- The cell that a reading comes down to lies within the cell that is read, unless it is this cell
or a grid, which may be a row. -/
theorem Reads.inside (h : r.Reads e d t c) (hd : d.kind ≠ .grid) : d = c ∨ d.Inside c := by
  induction h with
  | self => exact Or.inl rfl
  | part hk hpart _ ih => exact Or.inr ((Reading.isPart_of_mem_parts hpart).inside hd ih)

end Registry

end CellMarshal
