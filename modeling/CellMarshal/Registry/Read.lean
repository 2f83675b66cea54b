import CellMarshal.Arena
import CellMarshal.Converter.Scalar
import CellMarshal.Registry.Basic
import CellMarshal.Value.Equality

/-!
# Reading cells

Reading turns a cell into a value for a slot of a declared type. `readBy` says what one converter
does with a cell, given a function that reads the cells within it; `readWithin` ties the knot with a
bound on how deep readings nest, and `Registry.read` takes a bound that suffices.

A nested reading is of a cell within the grid, for a type no larger, or of one row taken as a grid,
for a smaller type. So the depth of the cell and the size of the type together get smaller
(`IsInner`), and their sum bounds the nesting. Main statements: `readBy_congr` (a reading depends on
inner readings only), `readWithin_eq_read` (any larger bound gives the same), and the equations
`read_eq` and `read_of_reader?`.
-/

namespace CellMarshal

namespace Reading

/-- A function that reads cells for declared types. -/
abbrev Inner := DeclType → Cell → Except Failure Value

/-! ## Containers -/

/-- Reads one cell of a grid. A missing cell is no value, which a primitive type cannot hold and a
type of cells takes as the cell that it is. -/
def readElement (inner : Inner) (elem : DeclType) (c : Cell) : Except Failure Value :=
  if c.isMissing && !elem.isCell then
    if elem.isPrimitive then
      .error (.nullArgument ("empty cell for " ++ elem.display ++ " element"))
    else .ok .null
  else inner elem c

/-- The type that the elements of a sequence are read for. -/
def elementType (target : DeclType) : DeclType :=
  target.element?.getD .object

/-- The types that the keys and the values of a map are read for. -/
def entryTypes (target : DeclType) : DeclType × DeclType :=
  target.mapTypes?.getD (.object, .object)

/-- Reads the elements of a sequence declared as `target`. Elements that are containers themselves
take one row each, others one cell each, row by row. -/
def readItems (inner : Inner) (target : DeclType) : Cell → Except Failure (List Value)
  | .grid rows =>
    if (Cell.grid rows).isEmptyGrid then .ok []
    else if (elementType target).isContainer then
      rows.mapM fun row => inner (elementType target) (.grid [row])
    else rows.flatten.mapM (readElement inner (elementType target))
  | c => .error (.unexpectedCell .grid c)

/-- Reads one row of a grid as an array of objects. -/
def readRow (inner : Inner) (row : List Cell) : Except Failure Value :=
  (row.mapM (readElement inner .object)).map .array

/-- Reads a grid for a slot that any object fits: a single row or column is a flat array, and a
wider grid an array of its rows. -/
def readOpenArray (inner : Inner) : Cell → Except Failure Value
  | .grid rows =>
    if (Cell.grid rows).isEmptyGrid then .ok (.array [])
    else if (Cell.grid rows).dims.1 = 1 ∨ (Cell.grid rows).dims.2 = 1 then
      readRow inner rows.flatten
    else (rows.mapM (readRow inner)).map .array
  | c => .error (.unexpectedCell .grid c)

/-- Reads an array. -/
def readArray (inner : Inner) (target : DeclType) (c : Cell) : Except Failure Value :=
  if target.isArray then (readItems inner target c).map .array else readOpenArray inner c

/-- Reads one entry of a map. -/
def readEntry (inner : Inner) (types : DeclType × DeclType) :
    List Cell → Except Failure (Value × Value)
  | [k, v] => do
    let key ← readElement inner types.1 k
    let value ← readElement inner types.2 v
    pure (key, value)
  | row => .error (.typeMismatch "2-cell row" (toString row.length ++ "-cell row"))

/-- The numbers of rows and columns of a grid in a message. -/
def shapeWords (dims : Nat × Nat) : String :=
  toString dims.1 ++ "×" ++ toString dims.2 ++ " array"

/-- Reads a map from a grid of two columns. -/
def readMap (inner : Inner) (target : DeclType) : Cell → Except Failure Value
  | .grid rows =>
    if (Cell.grid rows).isEmptyGrid then .ok (.map [])
    else if (Cell.grid rows).dims.2 ≠ 2 then
      .error (.typeMismatch "N×2 array" (shapeWords (Cell.grid rows).dims))
    else (rows.mapM (readEntry inner (entryTypes target))).map .map
  | c => .error (.unexpectedCell .grid c)

/-! ## References -/

/-- Takes a reference as it is. -/
def readHandle : Cell → Except Failure Value
  | .reference h t => .ok (.handle h t)
  | .missing => .ok .null
  | c => .error (.unexpectedCell .reference c)

/-- The value that an object in the arena stands for: the plain value that it wraps, or the object
itself. -/
def unwrap (o : Object) : Value :=
  o.content.getD (.object o)

/-- Follows a reference, and checks that what it leads to fits the slot. The tag plays no part. -/
def readObject (a : Arena) (target : DeclType) : Cell → Except Failure Value
  | .reference h _ => do
    let o ← a.get h
    if (unwrap o).isInstanceOf target then pure (unwrap o)
    else .error (.unexpectedValue target.display (unwrap o))
  | c => .error (.unexpectedCell .reference c)

/-! ## One converter -/

/-- Reads a cell by the form of a converter. -/
def readForm (a : Arena) (inner : Inner) (form : ConverterForm) (target : DeclType) (c : Cell) :
    Except Failure Value :=
  match form with
  | .numeric p => Scalar.readNumeric p c
  | .logical => Scalar.readLogical c
  | .logicalNumeric => Scalar.readLogicalNumeric c
  | .text => Scalar.readText c
  | .textNumeric => Scalar.readTextNumeric c
  | .charText => Scalar.readCharText c
  | .date => Scalar.readDate c
  | .dateTime => Scalar.readDateTime c
  | .list => (readItems inner target c).map .list
  | .set => (readItems inner target c).map Value.setOf
  | .map => readMap inner target c
  | .array => readArray inner target c
  | .handle => readHandle c
  | .cell => .ok (.cell c)
  | .objectHandle => readObject a target c

/-- Reads a cell by a converter, which has to tolerate a missing cell and to read any other. -/
def readBy (a : Arena) (inner : Inner) (k : Converter) (target : DeclType) (c : Cell) :
    Except Failure Value :=
  if c.isMissing && !k.toleratesNull then
    .error (.nullArgument ("missing value for " ++ target.display))
  else if !k.reads c.kind then .error (.unexpectedCell k.kind c)
  else readForm a inner k.form target c

/-! ## Inner readings -/

/-- How deep readings for a type and a cell can nest. -/
def bound (target : DeclType) (c : Cell) : Nat :=
  c.depth + target.size

/-- What a reading for `target` and `c` may call on: less deep or for a smaller type, and neither
deeper nor for a larger one. -/
def IsInner (t : DeclType) (d : Cell) (target : DeclType) (c : Cell) : Prop :=
  (d.depth < c.depth ∧ t.size ≤ target.size) ∨ (d.depth ≤ c.depth ∧ t.size < target.size)

/-- The bound on the nesting falls with each inner reading. -/
theorem bound_lt_of_isInner {t target : DeclType} {d c : Cell} (h : IsInner t d target c) :
    bound t d < bound target c := by
  rcases h with h | h <;> simp only [bound] <;> omega

/-- The bound on the nesting is not zero. -/
theorem bound_pos (target : DeclType) (c : Cell) : 0 < bound target c := by
  have := target.size_pos
  simp only [bound]
  omega

/-- The type that elements are read for is no larger. -/
theorem size_elementType_le (target : DeclType) : (elementType target).size ≤ target.size := by
  unfold elementType
  cases h : target.element? with
  | none => exact target.size_pos
  | some e => exact Nat.le_of_lt (DeclType.size_element_lt h)

/-- Elements that are containers are declared, so their type is smaller. -/
theorem size_elementType_lt {target : DeclType} (h : (elementType target).isContainer = true) :
    (elementType target).size < target.size := by
  unfold elementType at h ⊢
  cases he : target.element? with
  | none => rw [he] at h; cases h
  | some e => exact DeclType.size_element_lt he

/-- The types that keys and values are read for are no larger. -/
theorem size_entryTypes_le (target : DeclType) :
    (entryTypes target).1.size ≤ target.size ∧ (entryTypes target).2.size ≤ target.size := by
  unfold entryTypes
  cases h : target.mapTypes? with
  | none => exact ⟨target.size_pos, target.size_pos⟩
  | some kv =>
    have := DeclType.size_mapTypes_lt (k := kv.1) (v := kv.2) h
    exact ⟨Nat.le_of_lt this.1, Nat.le_of_lt this.2⟩

/-- A cell of the grid, for a type no larger, is read within it. -/
theorem isInner_cell {t target : DeclType} {d : Cell} {rows : List (List Cell)}
    (h : d ∈ rows.flatten) (ht : t.size ≤ target.size) : IsInner t d target (.grid rows) := by
  obtain ⟨row, hr, hd⟩ := List.mem_flatten.1 h
  exact Or.inl ⟨Cell.depth_lt_of_mem_grid hd hr, ht⟩

/-- A row of the grid, for a smaller type, is read within it. -/
theorem isInner_row {t target : DeclType} {row : List Cell} {rows : List (List Cell)}
    (h : row ∈ rows) (ht : t.size < target.size) : IsInner t (.grid [row]) target (.grid rows) :=
  Or.inr ⟨Cell.depth_row_le h, ht⟩

/-- Two functions agree on the items of a list, so mapping them over it gives the same. -/
theorem mapM_congr {α β : Type} {f g : α → Except Failure β} {xs : List α}
    (h : ∀ x ∈ xs, f x = g x) : xs.mapM f = xs.mapM g := by
  induction xs with
  | nil => rfl
  | cons x xs ih =>
    rw [List.mapM_cons, List.mapM_cons, h x (by simp), ih fun y hy => h y (by simp [hy])]

/-- An element depends on the inner reading of its cell alone. -/
theorem readElement_congr {f g : Inner} {elem : DeclType} {c : Cell} (h : f elem c = g elem c) :
    readElement f elem c = readElement g elem c := by
  simp only [readElement, h]

variable {f g : Inner} {target : DeclType} {c : Cell}

/-- The elements of a sequence depend on inner readings alone. -/
theorem readItems_congr (h : ∀ t d, IsInner t d target c → f t d = g t d) :
    readItems f target c = readItems g target c := by
  cases c with
  | grid rows =>
    simp only [readItems]
    split
    · rfl
    · split
      · rename_i hc
        exact mapM_congr fun row hr => h _ _ (isInner_row hr (size_elementType_lt hc))
      · exact mapM_congr fun d hd =>
          readElement_congr (h _ _ (isInner_cell hd (size_elementType_le target)))
  | _ => rfl

/-- A row of objects depends on the inner readings of its cells alone. -/
theorem readRow_congr {row : List Cell} (h : ∀ d ∈ row, f .object d = g .object d) :
    readRow f row = readRow g row := by
  unfold readRow
  rw [mapM_congr fun d hd => readElement_congr (h d hd)]

/-- An open array depends on inner readings alone. -/
theorem readOpenArray_congr (h : ∀ t d, IsInner t d target c → f t d = g t d) :
    readOpenArray f c = readOpenArray g c := by
  cases c with
  | grid rows =>
    have hobj : ∀ d ∈ rows.flatten, f .object d = g .object d :=
      fun d hd => h _ _ (isInner_cell hd target.size_pos)
    have hrow : ∀ row ∈ rows, readRow f row = readRow g row :=
      fun row hr => readRow_congr fun d hd => hobj d (List.mem_flatten.2 ⟨row, hr, hd⟩)
    simp only [readOpenArray, readRow_congr hobj, mapM_congr hrow]
  | _ => rfl

/-- An array depends on inner readings alone. -/
theorem readArray_congr (h : ∀ t d, IsInner t d target c → f t d = g t d) :
    readArray f target c = readArray g target c := by
  unfold readArray
  rw [readItems_congr h, readOpenArray_congr h]

/-- An entry depends on the inner readings of its key and its value alone. -/
theorem readEntry_congr {types : DeclType × DeclType} {row : List Cell}
    (hk : ∀ d ∈ row, f types.1 d = g types.1 d) (hv : ∀ d ∈ row, f types.2 d = g types.2 d) :
    readEntry f types row = readEntry g types row := by
  unfold readEntry
  split
  · rw [readElement_congr (hk _ (by simp)), readElement_congr (hv _ (by simp))]
  · rfl

/-- A map depends on inner readings alone. -/
theorem readMap_congr (h : ∀ t d, IsInner t d target c → f t d = g t d) :
    readMap f target c = readMap g target c := by
  cases c with
  | grid rows =>
    have hs := size_entryTypes_le target
    have hrow : ∀ row ∈ rows,
        readEntry f (entryTypes target) row = readEntry g (entryTypes target) row :=
      fun row hr => readEntry_congr
        (fun d hd => h _ _ (isInner_cell (List.mem_flatten.2 ⟨row, hr, hd⟩) hs.1))
        (fun d hd => h _ _ (isInner_cell (List.mem_flatten.2 ⟨row, hr, hd⟩) hs.2))
    simp only [readMap, mapM_congr hrow]
  | _ => rfl

/-- A reading depends on nothing but inner readings. -/
theorem readBy_congr (a : Arena) (k : Converter)
    (h : ∀ t d, IsInner t d target c → f t d = g t d) :
    readBy a f k target c = readBy a g k target c := by
  unfold readBy readForm
  rw [readItems_congr h, readArray_congr h, readMap_congr h]

end Reading

/-! ## The registry's reading -/

namespace Registry

/-- Reads a cell for a slot, with a bound on how deep readings nest. -/
def readWithin (r : Registry) (a : Arena) : Nat → Reading.Inner
  | 0, _, _ => .error (.resolution "readings nest too deep")
  | n + 1, target, c => do
    let k ← r.resolveKind target c.kind
    Reading.readBy a (r.readWithin a n) k target c

/-- Reads a cell for a slot declared as `target`. -/
def read (r : Registry) (a : Arena) (target : DeclType) (c : Cell) : Except Failure Value :=
  r.readWithin a (Reading.bound target c) target c

/-- Reads a cell by one converter; cells within it are read by the registry. -/
def readWith (r : Registry) (a : Arena) (k : Converter) (target : DeclType) (c : Cell) :
    Except Failure Value :=
  Reading.readBy a (r.read a) k target c

/-- With nesting left, a cell is read by the converter that it resolves to, and what is within it
with one level less. -/
theorem readWithin_succ (r : Registry) (a : Arena) (n : Nat) (target : DeclType) (c : Cell) :
    r.readWithin a (n + 1) target c =
      (r.resolveKind target c.kind).bind fun k =>
        Reading.readBy a (r.readWithin a n) k target c := rfl

/-- Two bounds that suffice give the same reading. -/
theorem readWithin_congr (r : Registry) (a : Arena) (m n : Nat) (target : DeclType) (c : Cell)
    (hm : Reading.bound target c ≤ m) (hn : Reading.bound target c ≤ n) :
    r.readWithin a m target c = r.readWithin a n target c := by
  induction m generalizing n target c with
  | zero => exact absurd (Reading.bound_pos target c) (by omega)
  | succ m ih =>
    cases n with
    | zero => exact absurd (Reading.bound_pos target c) (by omega)
    | succ n =>
      rw [readWithin_succ, readWithin_succ]
      congr 1
      funext k
      refine Reading.readBy_congr a k fun t d h => ih n t d ?_ ?_
      all_goals
        have := Reading.bound_lt_of_isInner h
        omega

/-- A bound that suffices gives the reading itself. -/
theorem readWithin_eq_read (r : Registry) (a : Arena) {n : Nat} {target : DeclType} {c : Cell}
    (h : Reading.bound target c ≤ n) : r.readWithin a n target c = r.read a target c :=
  readWithin_congr r a n _ target c h (Nat.le_refl _)

/-- The registry reads a cell by the converter that it resolves for it. -/
theorem read_eq (r : Registry) (a : Arena) (target : DeclType) (c : Cell) :
    r.read a target c = (r.resolveKind target c.kind).bind fun k => r.readWith a k target c := by
  unfold read
  obtain ⟨n, hn⟩ : ∃ n, Reading.bound target c = n + 1 :=
    ⟨_, (Nat.succ_pred_eq_of_pos (Reading.bound_pos target c)).symm⟩
  rw [hn, readWithin_succ]
  congr 1
  funext k
  refine Reading.readBy_congr a k fun t d h => readWithin_eq_read r a ?_
  have := Reading.bound_lt_of_isInner h
  omega

/-- A cell is read by the converter that is found for it. -/
theorem read_of_reader? {r : Registry} {a : Arena} {t : DeclType} {k : Converter} {c : Cell}
    (hk : r.reader? t c.kind = some k) : r.read a t c = r.readWith a k t c := by
  rw [read_eq, resolveKind_of_some hk]
  rfl

end Registry

end CellMarshal
