import CellMarshal.Proofs.RoundTrip.Grids

/-!
# Reading and writing settles

In the registry of the stock table, in either orientation, what is read from a cell and written
again is a cell that reading and writing leave as it is, provided that no set lies within another
container and that the casts of single cells settle.

For plain values and for the containers other than sets this holds because the value is kept: it is
read again from the cell that it is written as (`exists_kept`, `exists_keptGrid`). A slot for any
object reads a grid as an array, or as an array of arrays, whose shape tells which of both it was. A
set is kept too, unless it comes down to the grid that stands for no elements; that grid is read as
the empty set and written as itself. Main statements: `writesFixed_of_isPlain`,
`writesFixed_of_isSet`, `writesFixed_of_isObject` and `read_write_settled`.
-/

namespace CellMarshal

/-- Whether a set lies within a container. -/
def DeclType.hasInnerSet (t : DeclType) : Bool :=
  t.isContainer && t.args.any (DeclType.mentions .set)

/-- The cells that a value can be read from without following a reference: single cells, and grids
of these. -/
inductive Cell.IsSimple : Cell → Prop
  | single {c : Cell} (h : c.isPlain = true) : c.IsSimple
  | grid {rows : List (List Cell)} (h : Cell.PlainRows rows) : (Cell.grid rows).IsSimple

namespace Registry

open Writing Reading

variable {o way : Orientation} {a : Arena} {t : DeclType} {v : Value} {c : Cell}
  {rows : List (List Cell)}

/-! ## Cells that are left as they are -/

/-- Reading a cell and writing what was read leaves the cell as it is, in every arena. -/
def Fixes (r : Registry) (t : DeclType) (c : Cell) : Prop :=
  ∀ d, ∃ v, r.read d t c = .ok v ∧ (r.write t v).runOn d = (.ok c, d)

/-- A value is written as one cell from every arena, and reading and writing leave this cell as it
is. -/
def WritesFixed (r : Registry) (t : DeclType) (v : Value) : Prop :=
  ∃ c, (∀ b, (r.write t v).runOn b = (.ok c, b)) ∧ r.Fixes t c

/-- A value that is read again from the cell that it is written as is an instance. -/
theorem writesFixed_of_read (hw : WrittenAs o t v c) (hv : v ≠ .null)
    (h : ∀ d, (stock o).read d t c = .ok v) : (stock o).WritesFixed t v :=
  ⟨c, hw.write hv, fun d => ⟨v, h d, hw.write hv d⟩⟩

/-- A value whose grid is kept is written as one cell, which reading and writing leave. -/
theorem writesFixed_of_keptGrid (h : KeptGrid o t v rows c) : (stock o).WritesFixed t v :=
  writesFixed_of_read h.written (ne_null_of_isNested h.nested) h.read

/-! ## Single cells -/

/-- No value is written for a reference as a missing cell, and read from it. -/
theorem writesFixed_null (ht : t.isHandle = true) : (stock o).WritesFixed t .null := by
  rw [DeclType.isHandle, DeclType.isOf, beq_iff_eq] at ht
  have hboth : (∀ d, (stock o).read d t .missing = .ok .null) ∧
      ∀ d, ((stock o).write t .null).runOn d = (.ok .missing, d) := by
    rcases t with u | e | ⟨u, ts⟩ <;> cases ht <;> exact ⟨fun _ => rfl, fun _ => rfl⟩
  exact ⟨.missing, hboth.2, fun d => ⟨.null, hboth.1 d, hboth.2 d⟩⟩

/-- A cell in a slot for cells is written as it is, and reading and writing leave it. -/
theorem writesFixed_cell (ht : t.isCell = true) (c : Cell) : (stock o).WritesFixed t (.cell c) :=
  writesFixed_of_read (writtenAs_cell ht c) (by simp) fun _ => read_of_isCell ht c

/-- What is read from a single cell is written as one that is left as it is. -/
theorem writesFixed_of_isPlain (hc : c.isPlain = true) (hcasts : (stock o).CastsSettle t [c])
    (h : (stock o).read a t c = .ok v) : (stock o).WritesFixed t v := by
  by_cases hm : c = .missing
  · subst hm
    rcases read_missing h with ⟨hhandle, rfl⟩ | hcell
    · exact writesFixed_null hhandle
    · rw [read_of_isCell hcell] at h
      cases h
      exact writesFixed_cell hcell _
  have hone : readElement ((stock o).read a) t c = .ok v := by
    rw [readElement_of_ne_missing _ _ hm]
    exact h
  obtain ⟨c', hmissing, hk⟩ := exists_kept hcasts hc hone
  have hm' : c' ≠ .missing := fun h => hm (hmissing h)
  have hv : v ≠ .null := by
    rintro rfl
    have hshown := hk.written.shown a
    rw [writeElement_null, runOn_pure] at hshown
    cases hshown
    exact hm' rfl
  apply writesFixed_of_read hk.written hv
  intro d
  rw [← readElement_of_ne_missing ((stock o).read d) t hm']
  exact hk.read d

/-! ## Sets -/

/-- The empty grid is read as the empty set and written again. -/
theorem fixes_emptyGrid_of_set (ht : t.raw? = some .set) : (stock o).Fixes t .emptyGrid := by
  intro d
  refine ⟨.set [], ?_, ?_⟩
  · rw [Cell.emptyGrid, read_set ht]
    rfl
  · have hwritten := (SequenceType.set ht).writtenAs (KeptItems.nil o .column t)
    exact hwritten.write (by simp) d

/-- A set whose elements are kept is written as a grid that is left as it is, which is that for no
elements if it is not read as the set again. -/
theorem writesFixed_of_set (ht : t.raw? = some .set) {vs : List Value}
    (hdistinct : Value.distinct vs = vs) (h : KeptItems o .column t vs c) :
    (stock o).WritesFixed t (.set vs) := by
  have hwritten : WrittenAs o t (.set vs) c := (SequenceType.set ht).writtenAs h
  by_cases hempty : c.isEmptyGrid = true
  · cases Cell.eq_emptyGrid_of_isEmptyGrid hempty
    exact ⟨.emptyGrid, hwritten.write (by simp), fixes_emptyGrid_of_set ht⟩
  · apply writesFixed_of_read hwritten (by simp)
    intro d
    rw [Bool.not_eq_true] at hempty
    have hitems := h.read hempty d
    rcases c with _ | _ | _ | _ | rows | _ | _ | _ | _
    case grid =>
      rw [read_set ht, hitems]
      show Except.ok (Value.set (Value.distinct vs)) = _
      rw [hdistinct]
    all_goals cases hitems

/-- Any selection of elements that are kept in single cells is kept. -/
theorem exists_keptItems_of_cells {us vs : List Value} {cells : List Cell}
    (he : (Reading.elementType t).isContainer = false)
    (hk : List.Forall₂ (Kept o (Reading.elementType t)) vs cells) (hsub : ∀ u ∈ us, u ∈ vs)
    (way : Orientation) : ∃ c, KeptItems o way t us c := by
  have hcell : ∀ u ∈ us, ∃ c, Kept o (Reading.elementType t) u c := by
    intro u hu
    obtain ⟨c, -, hkept⟩ := exists_of_mem_left hk (hsub u hu)
    exact ⟨c, hkept⟩
  obtain ⟨chosen, hchosen⟩ := exists_forall₂ hcell
  exact ⟨vector way chosen, .of_cells he hchosen way⟩

/-- Any selection of elements that are kept in rows of one length is kept. -/
theorem exists_keptItems_of_rows {us vs : List Value} {rows' : List (List Cell)}
    (he : (Reading.elementType t).isContainer = true) (hrect : Cell.IsRectangular rows')
    (hk : List.Forall₂ (KeptRow o (Reading.elementType t)) vs rows') (hsub : ∀ u ∈ us, u ∈ vs)
    (way : Orientation) : ∃ c, KeptItems o way t us c := by
  by_cases hnil : us = []
  · rw [hnil]
    exact ⟨.emptyGrid, .nil o way t⟩
  obtain ⟨width, hpos, -, hlength⟩ := hrect
  have hrow : ∀ u ∈ us, ∃ row, KeptRow o (Reading.elementType t) u row ∧ row.length = width := by
    intro u hu
    obtain ⟨row, hmem, hkept⟩ := exists_of_mem_left hk (hsub u hu)
    exact ⟨row, hkept, hlength row hmem⟩
  obtain ⟨chosen, hchosen⟩ := exists_forall₂ hrow
  have hrect : Cell.IsRectangular chosen := by
    refine ⟨width, hpos, ?_, ?_⟩
    · rintro rfl
      cases hchosen
      exact hnil rfl
    · intro row hmem
      obtain ⟨u, -, hu⟩ := exists_of_mem_left hchosen.flip hmem
      exact hu.2
  exact ⟨.grid chosen, .of_rows hrect he (hchosen.imp fun _ _ hu => hu.1) way⟩

/-- Of the elements that are read from some rows, any selection is kept. -/
theorem exists_keptItems (hset : (Reading.elementType t).mentions .set = false)
    (hrows : Cell.PlainRows rows) (hcasts : (stock o).CastsSettle t rows.flatten)
    {us vs : List Value} (h : readItems ((stock o).read a) t (.grid rows) = .ok vs)
    (hsub : ∀ u ∈ us, u ∈ vs) (way : Orientation) : ∃ c, KeptItems o way t us c := by
  by_cases hempty : rows = [[.missing]]
  · subst hempty
    cases h
    rw [List.eq_nil_iff_forall_not_mem.2 fun u hu => List.not_mem_nil (hsub u hu)]
    exact ⟨.emptyGrid, .nil o way t⟩
  have hfull := Cell.isEmptyGrid_of_ne hempty
  have helem := hcasts.of_part (elementType_mem t)
  by_cases he : (Reading.elementType t).isContainer = true
  · simp only [readItems, hfull, he, Bool.false_eq_true, if_false, if_true] at h
    have hkeep : ∀ row ∈ rows, ∀ w, (stock o).read a (Reading.elementType t) (.grid [row]) = .ok w →
        ∃ c, KeptGrid o (Reading.elementType t) w [row] c := by
      intro row hrow w hw
      exact exists_keptGrid he hset (hrows.row hrow) (helem.of_row hrow) hw
    obtain ⟨rows', hk, hsame⟩ := exists_keptRows hkeep (mapM_eq_ok_iff.1 h)
    exact exists_keptItems_of_rows he (sameRows_isRectangular hsame hrows.rectangular) hk hsub way
  · rw [Bool.not_eq_true] at he
    rw [readItems_of_cells he hfull] at h
    obtain ⟨cells, hk, -⟩ := exists_keptCells helem hrows.plain (mapM_eq_ok_iff.1 h)
    exact exists_keptItems_of_cells he hk hsub way

/-- **A set is written as a grid that is left as it is**, where no set lies within it. -/
theorem writesFixed_of_isSet (ht : t.raw? = some .set)
    (hset : (Reading.elementType t).mentions .set = false) (hrows : Cell.PlainRows rows)
    (hcasts : (stock o).CastsSettle t rows.flatten)
    (h : (stock o).read a t (.grid rows) = .ok v) : (stock o).WritesFixed t v := by
  rw [read_set ht] at h
  obtain ⟨vs, hvs, rfl⟩ := map_eq_ok_iff.1 h
  obtain ⟨c, hk⟩ := exists_keptItems hset hrows hcasts hvs
    (fun u hu => Value.mem_of_mem_distinct hu) .column
  exact writesFixed_of_set ht (Value.distinct_of_allDifferent (Value.allDifferent_distinct vs)) hk

/-! ## Arrays where any object fits -/

/-- A grid in a slot that any object fits is read as an open array. -/
theorem read_object (ht : t.isObject = true) (rows : List (List Cell)) :
    (stock o).read a t (.grid rows) = readOpenArray ((stock o).read a) (.grid rows) := by
  rw [DeclType.isObject, DeclType.isOf, beq_iff_eq] at ht
  have hk : (stock o).reader? t .grid = some ⟨.array, .grid, 10⟩ ∧ t.isArray = false := by
    cases t <;> cases ht <;> exact ⟨rfl, rfl⟩
  rw [read_of_reader? hk.1]
  show readArray ((stock o).read a) t (.grid rows) = _
  rw [readArray, hk.2]
  rfl

/-- A slot for any object reads a grid of one row or column as an array. -/
theorem read_object_of_line (ht : t.isObject = true)
    (h : (Cell.grid rows).dims.1 = 1 ∨ (Cell.grid rows).dims.2 = 1) :
    (stock o).read a t (.grid rows) = (stock o).read a (.array .object) (.grid rows) := by
  rw [read_object ht, read_array]
  by_cases hempty : rows = [[.missing]]
  · rw [hempty]
    rfl
  · have hfull := Cell.isEmptyGrid_of_ne hempty
    rw [readItems_of_cells rfl hfull]
    simp only [readOpenArray, hfull, h, Bool.false_eq_true, if_false, if_true]
    rfl

/-- A slot for any object reads a grid of several rows and columns as an array of arrays. -/
theorem read_object_of_wide (ht : t.isObject = true) (hrect : Cell.IsRectangular rows)
    (h : ¬((Cell.grid rows).dims.1 = 1 ∨ (Cell.grid rows).dims.2 = 1)) :
    (stock o).read a t (.grid rows) = (stock o).read a (.array (.array .object)) (.grid rows) := by
  have hrow : ∀ row ∈ rows, row ≠ [.missing] := by
    obtain ⟨width, -, hne, hlength⟩ := hrect
    obtain ⟨first, rest, rfl⟩ := List.exists_cons_of_ne_nil hne
    rintro row hmem rfl
    apply h
    right
    show first.length = 1
    rw [hlength first List.mem_cons_self, ← hlength _ hmem]
    rfl
  have hfull : (Cell.grid rows).isEmptyGrid = false := by
    apply Cell.isEmptyGrid_of_ne
    rintro rfl
    exact h (Or.inl rfl)
  have hrows : rows.mapM (readRow ((stock o).read a)) =
      rows.mapM fun row => (stock o).read a (.array .object) (.grid [row]) := by
    apply Reading.mapM_congr
    intro row hmem
    have hline : (Cell.grid [row]).isEmptyGrid = false :=
      Cell.isEmptyGrid_of_ne fun hm => hrow row hmem (List.singleton_inj.1 hm)
    rw [read_array, readItems_of_cells rfl hline, List.flatten_singleton]
    rfl
  have hcontainer : (Reading.elementType (.array (.array .object))).isContainer = true := rfl
  rw [read_object ht, read_array]
  simp only [readOpenArray, readItems, hfull, h, hcontainer, hrows, Bool.false_eq_true, if_false,
    if_true]
  rfl

/-- A vector is a grid of one row or column. -/
theorem exists_line_of_vector (way : Orientation) (cells : List Cell) :
    ∃ rows, vector way cells = .grid rows ∧
      ((Cell.grid rows).dims.1 = 1 ∨ (Cell.grid rows).dims.2 = 1) := by
  rcases cells with _ | ⟨c, cells⟩
  · exact ⟨[[.missing]], vector_nil way, Or.inl rfl⟩
  · cases way with
    | column => exact ⟨_, Cell.column_cons c cells, Or.inr rfl⟩
    | row => exact ⟨_, Cell.row_cons c cells, Or.inl rfl⟩

/-- Rows of the same lengths have one shape. -/
theorem sameRows_dims {rows' : List (List Cell)} (h : List.Forall₂ SameRow rows rows') :
    (Cell.grid rows').dims = (Cell.grid rows).dims := by
  rw [Cell.dims, Cell.dims, h.length_eq]
  rcases h with _ | ⟨head, -⟩
  · rfl
  · simp only [List.head?_cons, Option.map_some, head.length]

/-- Types that mention no class with casts need no more than whole numbers to settle. -/
theorem CastsSettle.of_object {r : Registry} {cells : List Cell} (h : r.CastsSettle t cells) :
    r.CastsSettle (.array .object) cells ∧ r.CastsSettle (.array (.array .object)) cells := by
  have hint : ∀ s : RawType, s.isCast = true → RawType.object ≠ s := by
    rintro s hs rfl
    cases hs
  constructor
  all_goals
    intro s hs hm
    rcases hm with hm | hm
    · simp only [DeclType.mentions, DeclType.object, beq_iff_eq] at hm
      exact absurd hm (hint s hs)
    · exact h s hs (Or.inr hm)

/-- **What a slot for any object reads from a grid is written as one that is left as it is**: the
array is kept, and the grid shows again whether it is one of arrays. -/
theorem writesFixed_of_isObject (ht : t.isObject = true) (hrows : Cell.PlainRows rows)
    (hcasts : (stock o).CastsSettle t rows.flatten)
    (h : (stock o).read a t (.grid rows) = .ok v) : (stock o).WritesFixed t v := by
  have hopen : t.isOpen = true := by
    rw [DeclType.isObject, DeclType.isOf, beq_iff_eq] at ht
    rw [DeclType.isOpen, ht]
  obtain ⟨hflat, hdeep⟩ := hcasts.of_object
  by_cases hline : (Cell.grid rows).dims.1 = 1 ∨ (Cell.grid rows).dims.2 = 1
  · rw [read_object_of_line ht hline, read_array] at h
    obtain ⟨vs, hvs, rfl⟩ := map_eq_ok_iff.1 h
    obtain ⟨cells, hk⟩ :=
      exists_keptVector (.array .object) (by simp [DeclType.raw?]) rfl hrows hflat hvs
    obtain ⟨rows', hrows', hline'⟩ := exists_line_of_vector o cells
    rw [hrows'] at hk
    apply writesFixed_of_read (hk.written.of_open hopen) (ne_null_of_isNested hk.nested)
    intro d
    rw [read_object_of_line ht hline']
    exact hk.read d
  · rw [read_object_of_wide ht hrows.rectangular hline, read_array] at h
    obtain ⟨vs, hvs, rfl⟩ := map_eq_ok_iff.1 h
    have hkeep : ∀ row ∈ rows, ∀ w, (stock o).read a (.array .object) (.grid [row]) = .ok w →
        ∃ c, KeptGrid o (.array .object) w [row] c := by
      intro row hrow w hw
      exact exists_keptGrid rfl rfl (hrows.row hrow) (hflat.of_row hrow) hw
    obtain ⟨rows', hsame, hk⟩ := exists_keptGrid_of_rows (.array (.array .object))
      (by simp [DeclType.raw?]) rfl hrows.rectangular hkeep hvs
    apply writesFixed_of_read (hk.written.of_open hopen) (ne_null_of_isNested hk.nested)
    intro d
    have hrect' := sameRows_isRectangular hsame hrows.rectangular
    rw [read_object_of_wide ht hrect' (by rw [sameRows_dims hsame]; exact hline)]
    exact hk.read d

/-! ## All types -/

/-- The slots that take a list, a set or a map are those for containers and for any object. -/
theorem isContainer_of_accepts {u : RawType} (hu : u = .list ∨ u = .set ∨ u = .map)
    (h : t.accepts (.plain u) = true) : t.isContainer = true ∨ t.isObject = true := by
  rcases hs : t.raw? with _ | s
  · rw [DeclType.isContainer, hs]
    exact Or.inl rfl
  · rw [DeclType.accepts_raw_raw hs rfl] at h
    rw [DeclType.isContainer, DeclType.isObject, DeclType.isOf, hs]
    rcases hu with rfl | rfl | rfl
    all_goals
      cases s with
      | list | set | collection | map => exact Or.inl rfl
      | object => exact Or.inr rfl
      | _ => cases h

/-- A grid is read for containers, for cells and where any object fits. -/
theorem isContainer_of_read_grid (h : (stock o).read a t (.grid rows) = .ok v) :
    t.isContainer = true ∨ t.isObject = true ∨ t.isCell = true := by
  rw [read_eq] at h
  obtain ⟨k, hk, -⟩ := bind_eq_ok_iff.1 h
  obtain ⟨hmem, hreads, hproduces⟩ := of_reader?_eq_some (resolveKind_ok_iff.1 hk)
  have htable : ∀ k ∈ stockTable, k.reads .grid = true → k.form = .array ∨ k.form = .cell ∨
      k.form = .list ∨ k.form = .set ∨ k.form = .map := by
    decide
  rcases htable k (mem_rank.1 hmem) hreads with hf | hf | hf
  · rw [Converter.produces_of_array hf, Bool.or_eq_true] at hproduces
    rcases hproduces with harray | hobject
    · rcases t with s | e | ⟨s, args⟩
      · cases harray
      · exact Or.inl rfl
      · cases harray
    · exact Or.inr (Or.inl hobject)
  · rw [Converter.produces_of_cell hf] at hproduces
    exact Or.inr (Or.inr hproduces)
  · have hslot : t.isContainer = true ∨ t.isObject = true := by
      rcases hf with hf | hf | hf
      all_goals
        rw [Converter.produces_of_plain (by rw [hf]; rfl), Converter.valueType, hf] at hproduces
        exact isContainer_of_accepts (by simp) hproduces
    rcases hslot with hcontainer | hobject
    · exact Or.inl hcontainer
    · exact Or.inr (Or.inl hobject)

/-- What is read from a grid is written as a cell that is left as it is. -/
theorem writesFixed_of_grid (ht : t.hasInnerSet = false) (hrows : Cell.PlainRows rows)
    (hcasts : (stock o).CastsSettle t rows.flatten)
    (h : (stock o).read a t (.grid rows) = .ok v) : (stock o).WritesFixed t v := by
  rcases isContainer_of_read_grid h with hcontainer | hobject | hcell
  · rw [DeclType.hasInnerSet, hcontainer, Bool.true_and] at ht
    have hparts : ∀ p ∈ t.args, p.mentions .set = false := by
      intro p hp
      rw [Bool.eq_false_iff]
      intro hm
      rw [List.any_eq_true.2 ⟨p, hp, hm⟩] at ht
      cases ht
    by_cases hset : t.raw? = some .set
    · apply writesFixed_of_isSet hset _ hrows hcasts h
      rcases elementType_mem t with hmem | hany
      · exact hparts _ hmem
      · rw [hany]
        rfl
    · have hmentions : t.mentions .set = false := by
        rw [Bool.eq_false_iff]
        intro hm
        rcases DeclType.mentions_iff.1 hm with hraw | ⟨p, hp, hm⟩
        · exact hset hraw
        · rw [hparts p hp] at hm
          cases hm
      obtain ⟨c, hk⟩ := exists_keptGrid hcontainer hmentions hrows hcasts h
      exact writesFixed_of_keptGrid hk
  · exact writesFixed_of_isObject hobject hrows hcasts h
  · rw [read_of_isCell hcell] at h
    cases h
    exact writesFixed_cell hcell _

/-- **Reading and writing settles.** In the registry of the stock table, in either orientation, let
a value be read for a declared type, with no set within another container, from a single cell or a
rectangular grid of single cells. Then it is written, from every arena and leaving it as it was, as
one cell, and what is read from this cell, in whatever arena, is written as the same cell.

It is given that the casts of the classes that the type mentions settle on the cells, and those of
the integers that any object may be: what is read from one is read again from what it is written as.
-/
theorem read_write_settled (o : Orientation) (a : Arena) (t : DeclType) (w : Cell) (v : Value)
    (ht : t.hasInnerSet = false) (hw : w.IsSimple) (hcasts : (stock o).CastsSettle t w.cells)
    (h : (stock o).read a t w = .ok v) :
    ∃ w', (∀ b, ((stock o).write t v).runOn b = (.ok w', b)) ∧
      ∀ d, ∃ v', (stock o).read d t w' = .ok v' ∧ ((stock o).write t v').runOn d = (.ok w', d) := by
  rcases hw with hplain | hrows
  · have hcell : w.cells = [w] := by
      cases w <;> first | rfl | cases hplain
    rw [hcell] at hcasts
    exact writesFixed_of_isPlain hplain hcasts h
  · exact writesFixed_of_grid ht hrows hcasts h

/-- A set of arrays that are read from rows, with a cast and a missing cell. -/
theorem read_write_settled_rows :
    let t : DeclType := .generic .set [.array (.plain (.boxed .int))]
    let w : Cell := .grid [[.number 2.5, .integer 7], [.integer 2, .missing]]
    let v : Value := Value.setOf
      [.array [Scalar.cast .int 2.5, Scalar.cast .int (Float.ofInt (7 : Int32).toInt)],
        .array [Scalar.cast .int (Float.ofInt (2 : Int32).toInt), .null]]
    t.hasInnerSet = false ∧ w.IsSimple ∧ (stock .row).CastsSettle t w.cells ∧
      (stock .row).read {} t w = .ok v ∧
        ∃ w', (∀ b, ((stock .row).write t v).runOn b = (.ok w', b)) ∧
          ∀ d, ∃ v', (stock .row).read d t w' = .ok v' ∧
            ((stock .row).write t v').runOn d = (.ok w', d) := by
  intro t w v
  have ht : t.hasInnerSet = false := rfl
  have hw : w.IsSimple := by
    refine .grid ⟨⟨2, by decide, by simp, by simp⟩, ?_⟩
    simp [Cell.isPlain, Cell.kind, CellKind.isScalar, Cell.isMissing]
  have hcasts : (stock .row).CastsSettle t w.cells := by
    intro s hs hm c hc
    obtain rfl : s = .boxed .int := by
      rcases hm with hm | hm
      · simp only [t, DeclType.mentions, DeclType.mentionsAny, Bool.or_false, Bool.or_eq_true,
          beq_iff_eq] at hm
        rcases hm with rfl | rfl
        · cases hs
        · rfl
      · exact hm
    have hcells : c = .number 2.5 ∨ c = .integer 7 ∨ c = .integer 2 ∨ c = .missing := by
      simpa [w, Cell.cells] using hc
    rcases hcells with rfl | rfl | rfl | rfl
    · exact settles_int rfl (by decide +kernel)
    · exact settles_int rfl (by decide +kernel)
    · exact settles_int rfl (by decide +kernel)
    · intro a v c' hr
      cases hr
  have h : (stock .row).read {} t w = .ok v := rfl
  exact ⟨ht, hw, hcasts, h, read_write_settled .row {} t w v ht hw hcasts h⟩

end Registry

end CellMarshal
