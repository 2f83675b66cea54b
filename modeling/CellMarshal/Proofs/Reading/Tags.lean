import CellMarshal.Proofs.Typing.Mentions
import CellMarshal.Registry.Read

/-!
# Tags of references

A reference carries a handle, by which the arena knows the object, and a tag, by which the host
shows it. The tag comes from the host and may say anything. `Cell.untagged` takes the tags out of a
cell, those inside grids and bags too, and two cells that come to the same differ in their tags
only.

A type that mentions neither references nor cells (`DeclType.IsTagFree`) has no values in which a
tag could survive, and neither have the types that reading goes on to within a container. So what is
read for such a type, be it a value or a failure, does not depend on tags. Main statements:
`readForm_untagged`, `readBy_untagged` (one converter) and `Registry.read_untagged`.
-/

namespace CellMarshal

/-! ## Cells without tags -/

namespace Cell

mutual

/-- The cell with the tags of all references in it taken out. -/
def untagged : Cell → Cell
  | reference handle _ => reference handle ""
  | grid rows => grid (untaggedRows rows)
  | bag items => bag (untaggedRow items)
  | c => c

/-- The cells of a row without tags. -/
def untaggedRow : List Cell → List Cell
  | [] => []
  | c :: row => untagged c :: untaggedRow row

/-- The rows of a grid without tags. -/
def untaggedRows : List (List Cell) → List (List Cell)
  | [] => []
  | row :: rows => untaggedRow row :: untaggedRows rows

end

/-- A row loses its tags cell by cell. -/
theorem untaggedRow_eq_map (row : List Cell) : untaggedRow row = row.map untagged := by
  induction row with
  | nil => rfl
  | cons c row ih => rw [untaggedRow, ih, List.map_cons]

/-- A grid loses its tags cell by cell. -/
theorem untagged_grid (rows : List (List Cell)) :
    (grid rows).untagged = grid (rows.map fun row => row.map untagged) := by
  have hrows : untaggedRows rows = rows.map fun row => row.map untagged := by
    induction rows with
    | nil => rfl
    | cons row rows ih => rw [untaggedRows, ih, untaggedRow_eq_map, List.map_cons]
  rw [untagged, hrows]

/-! What a cell looks like from outside does not change. -/

/-- Tags do not concern the kind of a cell. -/
@[simp] theorem kind_untagged (c : Cell) : c.untagged.kind = c.kind := by
  cases c <;> rfl

/-- Tags do not concern whether a cell is missing. -/
@[simp] theorem isMissing_untagged (c : Cell) : c.untagged.isMissing = c.isMissing := by
  cases c <;> rfl

/-- Tags do not concern whether a grid is the empty one. -/
@[simp] theorem isEmptyGrid_untagged (c : Cell) : c.untagged.isEmptyGrid = c.isEmptyGrid := by
  cases c with
  | grid rows =>
    rw [untagged_grid]
    rcases rows with _ | ⟨_ | ⟨c, _ | ⟨d, row⟩⟩, _ | ⟨row', rows⟩⟩
    all_goals simp [isEmptyGrid]
  | _ => rfl

/-- Tags do not concern the shape of a cell. -/
@[simp] theorem dims_untagged (c : Cell) : c.untagged.dims = c.dims := by
  cases c with
  | grid rows =>
    rw [untagged_grid]
    cases rows <;> simp [dims]
  | bag items => simp [untagged, dims, untaggedRow_eq_map]
  | _ => rfl

end Cell

/-! ## Types without tags -/

/-- A type that mentions neither references nor cells, at any depth. -/
structure DeclType.IsTagFree (t : DeclType) : Prop where
  handle : t.mentions .handle = false
  cell : t.mentions .cell = false

namespace DeclType.IsTagFree

/-- The type that any object fits mentions neither references nor cells. -/
theorem object : DeclType.object.IsTagFree :=
  ⟨rfl, rfl⟩

variable {t p : DeclType}

/-- The parts of such a type are of this sort. -/
theorem of_mem_args (h : t.IsTagFree) (hp : p ∈ t.args) : p.IsTagFree := by
  have hpart : ∀ s, t.mentions s = false → p.mentions s = false := by
    intro s hs
    rw [Bool.eq_false_iff] at hs ⊢
    intro hmentions
    exact hs (mentions_iff.2 (Or.inr ⟨p, hp, hmentions⟩))
  exact ⟨hpart _ h.handle, hpart _ h.cell⟩

/-- So are the types that reading goes on to within a container. -/
theorem of_inner (h : t.IsTagFree) (hp : p ∈ t.args ∨ p = .object) : p.IsTagFree := by
  rcases hp with hmem | hobject
  · exact h.of_mem_args hmem
  · rw [hobject]
    exact .object

/-- The elements of a type without tags are of a type without tags. -/
theorem elementType (h : t.IsTagFree) : (Reading.elementType t).IsTagFree :=
  h.of_inner (Reading.elementType_mem t)

/-- The keys and the values of a type without tags are of types without tags. -/
theorem entryTypes (h : t.IsTagFree) :
    (Reading.entryTypes t).1.IsTagFree ∧ (Reading.entryTypes t).2.IsTagFree :=
  ⟨h.of_inner (Reading.entryTypes_mem t).1, h.of_inner (Reading.entryTypes_mem t).2⟩

/-- A type without tags is not one of references. -/
theorem isHandle_eq (h : t.IsTagFree) : t.isHandle = false := by
  rw [Bool.eq_false_iff]
  intro hhandle
  have hmentions : t.mentions .handle = true :=
    mentions_iff.2 (Or.inl (by simpa [isHandle, isOf] using hhandle))
  rw [h.handle] at hmentions
  cases hmentions

/-- A type without tags is not one of cells. -/
theorem isCell_eq (h : t.IsTagFree) : t.isCell = false := by
  rw [Bool.eq_false_iff]
  intro hcell
  have hmentions : t.mentions .cell = true := mentions_iff.2 (Or.inl (raw?_of_isCell hcell))
  rw [h.cell] at hmentions
  cases hmentions

end DeclType.IsTagFree

/-! ## Readings -/

namespace Reading

variable {inner : Inner} {target elem : DeclType} {k : Converter} {a : Arena}

/-- A function that reads cells for types without tags, and does not depend on tags there. -/
def IgnoresTags (inner : Inner) : Prop :=
  ∀ t, t.IsTagFree → ∀ c : Cell, inner t c.untagged = inner t c

/-- Items may be changed before a traversal where it does not depend on the change. -/
theorem mapM_map_of_forall {α β : Type} {f : α → Except Failure β} {g : α → α}
    (h : ∀ x, f (g x) = f x) (xs : List α) : (xs.map g).mapM f = xs.mapM f := by
  rw [List.mapM_map]
  exact mapM_congr fun x _ => h x

/-- An element is read as without its tags. -/
theorem readElement_untagged (hi : IgnoresTags inner) (he : elem.IsTagFree) (c : Cell) :
    readElement inner elem c.untagged = readElement inner elem c := by
  simp only [readElement, Cell.isMissing_untagged, hi elem he]

/-- The cells of a row are read one by one. -/
theorem mapM_readElement_untagged (hi : IgnoresTags inner) (he : elem.IsTagFree)
    (row : List Cell) :
    (row.map Cell.untagged).mapM (readElement inner elem) = row.mapM (readElement inner elem) :=
  mapM_map_of_forall (readElement_untagged hi he) row

/-- The elements of a sequence are read as without their tags. -/
theorem readItems_untagged (hi : IgnoresTags inner) (ht : target.IsTagFree) (c : Cell) :
    readItems inner target c.untagged = readItems inner target c := by
  cases c with
  | grid rows =>
    have hempty := Cell.isEmptyGrid_untagged (.grid rows)
    rw [Cell.untagged_grid] at hempty ⊢
    have hrow : ∀ row : List Cell, inner (elementType target) (.grid [row.map Cell.untagged]) =
        inner (elementType target) (.grid [row]) := by
      intro row
      have := hi (elementType target) ht.elementType (.grid [row])
      rwa [Cell.untagged_grid] at this
    rw [readItems, readItems, hempty, mapM_map_of_forall hrow, ← List.map_flatten,
      mapM_readElement_untagged hi ht.elementType]
  | _ => rfl

/-- A row is read as without its tags. -/
theorem readRow_untagged (hi : IgnoresTags inner) (row : List Cell) :
    readRow inner (row.map Cell.untagged) = readRow inner row := by
  rw [readRow, readRow, mapM_readElement_untagged hi .object]

/-- An open array is read as without its tags. -/
theorem readOpenArray_untagged (hi : IgnoresTags inner) (c : Cell) :
    readOpenArray inner c.untagged = readOpenArray inner c := by
  cases c with
  | grid rows =>
    have hempty := Cell.isEmptyGrid_untagged (.grid rows)
    have hdims := Cell.dims_untagged (.grid rows)
    rw [Cell.untagged_grid] at hempty hdims ⊢
    rw [readOpenArray, readOpenArray, hempty, hdims, mapM_map_of_forall (readRow_untagged hi),
      ← List.map_flatten, readRow_untagged hi]
  | _ => rfl

/-- An array is read as without its tags. -/
theorem readArray_untagged (hi : IgnoresTags inner) (ht : target.IsTagFree) (c : Cell) :
    readArray inner target c.untagged = readArray inner target c := by
  rw [readArray, readArray, readItems_untagged hi ht, readOpenArray_untagged hi]

/-- An entry is read as without its tags. -/
theorem readEntry_untagged (hi : IgnoresTags inner) {types : DeclType × DeclType}
    (hk : types.1.IsTagFree) (hv : types.2.IsTagFree) (row : List Cell) :
    readEntry inner types (row.map Cell.untagged) = readEntry inner types row := by
  rcases row with _ | ⟨key, _ | ⟨value, _ | ⟨c, row⟩⟩⟩
  · rfl
  · rfl
  · simp only [List.map_cons, List.map_nil, readEntry, readElement_untagged hi hk,
      readElement_untagged hi hv]
  · simp [readEntry]

/-- A map is read as without its tags. -/
theorem readMap_untagged (hi : IgnoresTags inner) (ht : target.IsTagFree) (c : Cell) :
    readMap inner target c.untagged = readMap inner target c := by
  cases c with
  | grid rows =>
    have hempty := Cell.isEmptyGrid_untagged (.grid rows)
    have hdims := Cell.dims_untagged (.grid rows)
    have htypes := ht.entryTypes
    rw [Cell.untagged_grid] at hempty hdims ⊢
    rw [readMap, readMap, hempty, hdims,
      mapM_map_of_forall (readEntry_untagged hi htypes.1 htypes.2)]
  | _ => rfl

/-- References are followed by their handles. -/
theorem readObject_untagged (c : Cell) :
    readObject a target c.untagged = readObject a target c := by
  cases c <;> rfl

/-- Apart from the forms that hand on references and cells, no form depends on tags. -/
theorem readForm_untagged (hi : IgnoresTags inner) (ht : target.IsTagFree) {form : ConverterForm}
    (hhandle : form ≠ .handle) (hcell : form ≠ .cell) (c : Cell) :
    readForm a inner form target c.untagged = readForm a inner form target c := by
  cases form with
  | list => simp only [readForm, readItems_untagged hi ht]
  | set => simp only [readForm, readItems_untagged hi ht]
  | map => exact readMap_untagged hi ht c
  | array => exact readArray_untagged hi ht c
  | handle => exact absurd rfl hhandle
  | cell => exact absurd rfl hcell
  | objectHandle => exact readObject_untagged c
  | _ =>
    -- The forms for single cells take references, grids and bags for cells of the wrong kind.
    cases c <;> rfl

/-- **One converter** that produces values for a type without tags does not depend on tags. -/
theorem readBy_untagged (hi : IgnoresTags inner) (ht : target.IsTagFree)
    (hk : k.produces target = true) (c : Cell) :
    readBy a inner k target c.untagged = readBy a inner k target c := by
  have hhandle : k.form ≠ .handle := by
    intro hf
    rw [Converter.produces_of_handle hf, ht.isHandle_eq] at hk
    cases hk
  have hcell : k.form ≠ .cell := by
    intro hf
    rw [Converter.produces_of_cell hf, ht.isCell_eq] at hk
    cases hk
  simp only [readBy, Cell.isMissing_untagged, Cell.kind_untagged, Failure.unexpectedCell,
    readForm_untagged hi ht hhandle hcell]

end Reading

namespace Registry

variable {r : Registry} {t : DeclType}

/-- However deep readings may nest, tags make no difference. -/
theorem ignoresTags_readWithin (r : Registry) (a : Arena) (n : Nat) :
    Reading.IgnoresTags (r.readWithin a n) := by
  induction n with
  | zero =>
    intro t ht c
    rfl
  | succ n ih =>
    intro t ht c
    rw [readWithin_succ, readWithin_succ, Cell.kind_untagged]
    cases hk : r.resolveKind t c.kind with
    | error f => rfl
    | ok k =>
      obtain ⟨-, -, hp⟩ := of_reader?_eq_some (resolveKind_ok_iff.1 hk)
      exact Reading.readBy_untagged ih ht hp c

/-- **What is read for a type without tags does not depend on tags.** -/
theorem read_untagged (r : Registry) (a : Arena) : Reading.IgnoresTags (r.read a) := by
  intro t ht c
  -- One bound suffices for both cells.
  have htagged := readWithin_eq_read r a
    (Nat.le_add_right (Reading.bound t c) (Reading.bound t c.untagged))
  have huntagged := readWithin_eq_read r a
    (Nat.le_add_left (Reading.bound t c.untagged) (Reading.bound t c))
  rw [← htagged, ← huntagged, ignoresTags_readWithin r a _ t ht c]

/-- Nor does what a converter reads that produces values for such a type. -/
theorem readWith_untagged (r : Registry) (a : Arena) {k : Converter} (ht : t.IsTagFree)
    (hk : k.produces t = true) (c : Cell) :
    r.readWith a k t c.untagged = r.readWith a k t c :=
  Reading.readBy_untagged (read_untagged r a) ht hk c

end Registry

end CellMarshal
