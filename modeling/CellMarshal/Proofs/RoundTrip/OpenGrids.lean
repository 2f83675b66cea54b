import CellMarshal.Proofs.Decimal.Whole
import CellMarshal.Proofs.RoundTrip.Settled

/-!
# Grids of data where any object fits

A slot for any object reads a grid of numbers, texts, truth values, integers and missing cells as an
array, or as an array of arrays, without being told what is in it. In the registry of the stock
table, in either orientation, every cell comes back as the cell that it was: the class that its
value shows leads to the converter that writes this kind of cell, and an integer is exact as a
double (`kept_openValue`). So a grid with several rows and columns is written again as it was, and
one line of cells as the vector of these. Main statement: `write_read_object`.
-/

namespace CellMarshal

namespace Cell

/-- The cells that hold data by themselves, or nothing. -/
def isData : Cell → Bool
  | number _ | text _ | boolean _ | integer _ | missing => true
  | _ => false

/-- The value that a slot for any object takes from a cell of data. -/
def openValue : Cell → Value
  | number x => .double x
  | text s => .string s
  | boolean b => .boolean b
  | integer i => .int i
  | _ => .null

/-- Rectangular rows that are no line are several, and of several cells. -/
theorem IsRectangular.two_le_dims {rows : List (List Cell)} (h : IsRectangular rows)
    (hline : ¬((grid rows).dims.1 = 1 ∨ (grid rows).dims.2 = 1)) :
    2 ≤ (grid rows).dims.1 ∧ 2 ≤ (grid rows).dims.2 := by
  obtain ⟨width, hpos, hne, hlength⟩ := h
  obtain ⟨first, rest, rfl⟩ := List.exists_cons_of_ne_nil hne
  have hrows : (grid (first :: rest)).dims.1 = rest.length + 1 := rfl
  have hcells : (grid (first :: rest)).dims.2 = width := hlength first List.mem_cons_self
  omega

end Cell

namespace Scalar

/-- An integer that is turned into a double is cast to the same integer again. -/
theorem toInteger_ofInt (i : Int32) : toInteger (Float.ofInt i.toInt) = i := by
  have hlow := i.le_toInt
  have hhigh := i.toInt_lt
  have hexact : Decimal.wholePart (Float.ofInt i.toInt) = i.toInt := by
    apply Decimal.wholePart_ofInt
    simp only [Decimal.Binary.fractionSize]
    omega
  rw [toInteger, hexact, Decimal.clamp_of_mem (by omega) (by omega), Int32.ofInt_toInt]

/-- A cast to an integer brings the number into 32 bits. -/
theorem cast_int (x : Float) : cast .int x = .int (toInteger x) := rfl

end Scalar

namespace Registry

open Writing Reading

variable {o : Orientation} {rows : List (List Cell)} {row : List Cell} {c : Cell}

/-! ## Cells -/

/-- **A cell of data comes back as the cell that it was**, where any object fits. -/
theorem kept_openValue (o : Orientation) (hc : c.isData = true) :
    Kept o .object c.openValue c := by
  cases c with
  | missing => exact ⟨rfl, writtenAs_null o .object, fun _ => rfl⟩
  | number x => exact .of_isScalar rfl ⟨fun _ => rfl, rfl⟩ rfl fun _ => rfl
  | text s => exact .of_isScalar rfl ⟨fun _ => rfl, rfl⟩ rfl fun _ => rfl
  | boolean b => exact .of_isScalar rfl ⟨fun _ => rfl, rfl⟩ rfl fun _ => rfl
  | integer i =>
    have hexact := Scalar.toInteger_ofInt i
    refine .of_isScalar rfl ⟨fun a => ?_, rfl⟩ rfl fun d => ?_
    · show (Except.ok (Cell.integer (Scalar.toInteger
        (Float.ofInt (Scalar.toInteger (Float.ofInt i.toInt)).toInt))), a) = _
      rw [hexact, hexact]
    · show Except.ok (Scalar.cast .int (Float.ofInt i.toInt)) = _
      rw [Scalar.cast_int, hexact]
      rfl
  | _ => cases hc

/-- Cells of data are kept by the values that a slot for any object takes from them. -/
theorem kept_openValues (o : Orientation) {cells : List Cell}
    (h : ∀ c ∈ cells, c.isData = true) :
    List.Forall₂ (Kept o .object) (cells.map Cell.openValue) cells := by
  rw [List.forall₂_map_left_iff, List.forall₂_same]
  intro c hc
  exact kept_openValue o (h c hc)

/-! ## Lines -/

/-- A line of cells is read as the array of their values and written as their vector. -/
theorem write_read_object_of_line (hfull : rows ≠ [[.missing]])
    (hdata : ∀ c ∈ rows.flatten, c.isData = true)
    (hline : (Cell.grid rows).dims.1 = 1 ∨ (Cell.grid rows).dims.2 = 1) :
    let v := Value.array (rows.flatten.map Cell.openValue)
    (∀ a, (stock o).read a .object (.grid rows) = .ok v) ∧
      ∀ b, ((stock o).write .object v).runOn b = (.ok (vector o rows.flatten), b) := by
  intro v
  have hkept := kept_openValues o hdata
  constructor
  · intro a
    have hreads := mapM_eq_ok_iff.2 (hkept.flip.imp fun _ _ hk => hk.read a)
    rw [read_object_of_line rfl hline, read_array,
      readItems_of_cells rfl (Cell.isEmptyGrid_of_ne hfull)]
    show (List.mapM (readElement ((stock o).read a) .object) rows.flatten).map Value.array = _
    rw [hreads]
    rfl
  · have hitems : KeptItems o o (.array .object) _ _ := .of_cells rfl hkept o
    have hwritten := (SequenceType.array .object).writtenAs hitems
    exact (hwritten.of_open (t := .object) rfl).write (by simp)

/-! ## Several rows and columns -/

/-- A row of several cells is kept as the array of their values. -/
theorem keptRow_openValues (hlong : 2 ≤ row.length) (hdata : ∀ c ∈ row, c.isData = true) :
    KeptRow o (.array .object) (.array (row.map Cell.openValue)) row := by
  have hnil : row ≠ [] := by
    rintro rfl
    cases hlong
  have hmissing : row ≠ [.missing] := by
    rintro rfl
    exact absurd hlong (by decide)
  have hkept : KeptGrid o (.array .object) (.array (row.map Cell.openValue)) [row] (vector o row) :=
    .of_cells (.array .object) (by simp [DeclType.raw?]) rfl (kept_openValues o hdata) hnil hmissing
      (by rw [List.flatten_singleton])
  obtain ⟨rows', hrows', hflat⟩ := exists_rows_of_vector o hnil
  have hrow : asRow (vector o row) = row := by rw [hrows', asRow, hflat]
  have hkeptRow := hkept.keptRow
  rw [hrow] at hkeptRow
  exact hkeptRow

/-- A grid of several rows and columns is read as the array of its rows and written as it was. -/
theorem write_read_object_of_wide (hrect : Cell.IsRectangular rows)
    (hdata : ∀ c ∈ rows.flatten, c.isData = true)
    (hwide : 2 ≤ (Cell.grid rows).dims.1 ∧ 2 ≤ (Cell.grid rows).dims.2) :
    let v := Value.array (rows.map fun row => .array (row.map Cell.openValue))
    (∀ a, (stock o).read a .object (.grid rows) = .ok v) ∧
      ∀ b, ((stock o).write .object v).runOn b = (.ok (.grid rows), b) := by
  intro v
  have hrows : List.Forall₂ (KeptRow o (.array .object))
      (rows.map fun row => .array (row.map Cell.openValue)) rows := by
    obtain ⟨width, -, hne, hlength⟩ := hrect
    rw [List.forall₂_map_left_iff, List.forall₂_same]
    intro row hrow
    apply keptRow_openValues
    · obtain ⟨first, rest, rfl⟩ := List.exists_cons_of_ne_nil hne
      rw [hlength row hrow, ← hlength first List.mem_cons_self]
      exact hwide.2
    · exact fun c hc => hdata c (List.mem_flatten.2 ⟨row, hrow, hc⟩)
  have hfull : rows ≠ [[.missing]] := by
    rintro rfl
    exact absurd hwide.1 (by decide)
  have hsame : List.Forall₂ SameRow rows rows := List.forall₂_same.2 fun _ _ => ⟨rfl, id⟩
  have hkept : KeptGrid o (.array (.array .object)) v rows (.grid rows) :=
    .of_rows (.array (.array .object)) (by simp [DeclType.raw?]) rfl hrect hfull hrows hsame
  constructor
  · intro a
    rw [read_object_of_wide rfl hrect (by omega)]
    exact hkept.read a
  · exact (hkept.written.of_open (t := .object) rfl).write (by simp)

/-! ## All grids -/

/-- The grid that stands for no elements is read as the empty array and written as it was. -/
theorem write_read_object_of_empty (o : Orientation) :
    (∀ a, (stock o).read a .object (.grid [[.missing]]) = .ok (.array [])) ∧
      ∀ b, ((stock o).write .object (.array [])).runOn b = (.ok (.grid [[.missing]]), b) := by
  have hkept : KeptGrid o (.array .object) (.array []) [[.missing]] .emptyGrid :=
    keptGrid_nil (.array .object) (by simp [DeclType.raw?])
  constructor
  · intro a
    rw [read_object_of_line rfl (Or.inl rfl)]
    exact hkept.read a
  · exact (hkept.written.of_open (t := .object) rfl).write (by simp)

/-- **A slot for any object keeps a grid of data.** In the registry of the stock table, in either
orientation, let a rectangular grid hold numbers, texts, truth values, integers and missing cells.
Then a slot for any object reads it, in every arena, as one value, and this value is written for any
object, from every arena and leaving it as it was, as one cell. The cell is the same grid where this
has several rows and columns; where it has a single row or a single column, it is the vector of the
same cells in the same order, as it lies in this orientation; and the grid of one missing cell is
written as itself. -/
theorem write_read_object (o : Orientation) (rows : List (List Cell))
    (hrect : Cell.IsRectangular rows) (hdata : ∀ c ∈ rows.flatten, c.isData = true) :
    ∃ v c, (∀ a, (stock o).read a .object (.grid rows) = .ok v) ∧
      (∀ b, ((stock o).write .object v).runOn b = (.ok c, b)) ∧
      (2 ≤ (Cell.grid rows).dims.1 ∧ 2 ≤ (Cell.grid rows).dims.2 → c = .grid rows) ∧
      ((Cell.grid rows).dims.1 = 1 ∨ (Cell.grid rows).dims.2 = 1 → rows ≠ [[.missing]] →
        c = vector o rows.flatten) ∧
      (rows = [[.missing]] → c = .grid rows) := by
  by_cases hempty : rows = [[.missing]]
  · subst hempty
    obtain ⟨hread, hwrite⟩ := write_read_object_of_empty o
    exact ⟨_, _, hread, hwrite, fun _ => rfl, fun _ hne => absurd rfl hne, fun _ => rfl⟩
  by_cases hline : (Cell.grid rows).dims.1 = 1 ∨ (Cell.grid rows).dims.2 = 1
  · obtain ⟨hread, hwrite⟩ := write_read_object_of_line (o := o) hempty hdata hline
    refine ⟨_, _, hread, hwrite, fun hwide => ?_, fun _ _ => rfl, fun h => absurd h hempty⟩
    omega
  · have hwide := hrect.two_le_dims hline
    obtain ⟨hread, hwrite⟩ := write_read_object_of_wide (o := o) hrect hdata hwide
    exact ⟨_, _, hread, hwrite, fun _ => rfl, fun h => absurd h hline, fun h => absurd h hempty⟩

/-- A table with a missing cell, a column of an integer and a text, and no cells. -/
theorem write_read_object_table :
    let table := [[Cell.text "a", .number 1.5, .missing], [.boolean true, .integer (-7), .text ""]]
    let line := [[Cell.integer 3], [.text "b"]]
    Cell.IsRectangular table ∧ Cell.IsRectangular line ∧
      (∃ v, ((stock .column).read {} .object (.grid table) = .ok v) ∧
        ((stock .column).write .object v).runOn {} = (.ok (.grid table), {})) ∧
      (∃ v, ((stock .row).read {} .object (.grid line) = .ok v) ∧
        ((stock .row).write .object v).runOn {} = (.ok (.grid [[.integer 3, .text "b"]]), {})) ∧
      ∃ v, ((stock .row).read {} .object (.grid [[.missing]]) = .ok v) ∧
        ((stock .row).write .object v).runOn {} = (.ok (.grid [[.missing]]), {}) := by
  intro table line
  have htable : Cell.IsRectangular table := ⟨3, by decide, by simp [table], by simp [table]⟩
  have hline : Cell.IsRectangular line := ⟨1, by decide, by simp [line], by simp [line]⟩
  refine ⟨htable, hline, ?_, ?_, ?_⟩
  · obtain ⟨v, c, hread, hwrite, hwide, -, -⟩ :=
      write_read_object .column table htable (by simp [table, Cell.isData])
    rw [hwide ⟨by decide, by decide⟩] at hwrite
    exact ⟨v, hread {}, hwrite {}⟩
  · obtain ⟨v, c, hread, hwrite, -, hvector, -⟩ :=
      write_read_object .row line hline (by simp [line, Cell.isData])
    rw [hvector (Or.inr rfl) (by simp [line])] at hwrite
    exact ⟨v, hread {}, hwrite {}⟩
  · obtain ⟨v, c, hread, hwrite, -, -, hmissing⟩ :=
      write_read_object .row [[.missing]] ⟨1, by decide, by simp, by simp⟩ (by simp [Cell.isData])
    rw [hmissing rfl] at hwrite
    exact ⟨v, hread {}, hwrite {}⟩

end Registry

end CellMarshal
