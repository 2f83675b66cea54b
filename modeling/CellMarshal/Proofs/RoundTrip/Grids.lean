import CellMarshal.Proofs.RoundTrip.Containers
import CellMarshal.Proofs.RoundTrip.SingleCells
import CellMarshal.Proofs.Value.Instances

/-!
# Grids settle

A container that is read from a grid is written as a grid that may be laid out anew: a column
becomes a row, and single cells are written by the type that the values show. In the registry of the
stock table, in either orientation, the container is read from the new grid again, provided that no
set lies within it and that the casts of single cells settle.

So is the container from the one row that the cells of the new grid make up, if it was read from one
row, and that is what becomes of the grid where the container is itself an element. No cell is lost
on the way, so that the rows of elements keep their common length, and nothing is padded
(`KeptGrid`). Main statements: `exists_keptVector` and `exists_keptGrid_of_rows` (sequences of
elements in single cells and in rows), `exists_keptGrid_map`, and `exists_keptGrid` (by induction on
the type).
-/

namespace CellMarshal

namespace Cell

/-! ## Rectangular rows -/

/-- Rows of one length that is not zero, with cells that lead to nothing else. -/
structure PlainRows (rows : List (List Cell)) : Prop where
  rectangular : IsRectangular rows
  plain : ∀ c ∈ rows.flatten, c.isPlain = true

/-- A rectangle has a row. -/
theorem IsRectangular.ne_nil {rows : List (List Cell)} (h : IsRectangular rows) : rows ≠ [] := by
  obtain ⟨-, -, hne, -⟩ := h
  exact hne

/-- A row of a rectangle is a rectangle itself. -/
theorem IsRectangular.row {rows : List (List Cell)} (h : IsRectangular rows) {row : List Cell}
    (hr : row ∈ rows) : IsRectangular [row] := by
  obtain ⟨width, hpos, -, hlength⟩ := h
  refine ⟨width, hpos, List.cons_ne_nil _ _, ?_⟩
  intro r hm
  rw [List.mem_singleton] at hm
  rw [hm]
  exact hlength row hr

/-- A row of plain rows is plain itself. -/
theorem PlainRows.row {rows : List (List Cell)} (h : PlainRows rows) {row : List Cell}
    (hr : row ∈ rows) : PlainRows [row] := by
  refine ⟨h.rectangular.row hr, fun c hc => h.plain c ?_⟩
  rw [List.flatten_singleton] at hc
  exact List.mem_flatten.2 ⟨row, hr, hc⟩

/-- A row of a rectangle has a cell. -/
theorem IsRectangular.ne_nil_of_mem {rows : List (List Cell)} (h : IsRectangular rows)
    {row : List Cell} (hr : row ∈ rows) : row ≠ [] := by
  obtain ⟨width, hpos, -, hlength⟩ := h
  rintro rfl
  have := hlength [] hr
  rw [← this] at hpos
  cases hpos

/-- A rectangle has a cell. -/
theorem IsRectangular.flatten_ne_nil {rows : List (List Cell)} (h : IsRectangular rows) :
    rows.flatten ≠ [] := by
  obtain ⟨row, rest, rfl⟩ := List.exists_cons_of_ne_nil h.ne_nil
  rw [List.flatten_cons]
  intro hnil
  exact h.ne_nil_of_mem List.mem_cons_self (List.append_eq_nil_iff.1 hnil).1

/-- Rectangular rows of one cell altogether are one row of it. -/
theorem IsRectangular.eq_of_flatten {rows : List (List Cell)} (h : IsRectangular rows) {c : Cell}
    (hc : rows.flatten = [c]) : rows = [[c]] := by
  obtain ⟨row, rest, rfl⟩ := List.exists_cons_of_ne_nil h.ne_nil
  have hrow : row ≠ [] := h.ne_nil_of_mem List.mem_cons_self
  rcases rest with _ | ⟨second, rest⟩
  · rw [List.flatten_singleton] at hc
    rw [hc]
  · have hsecond : second ≠ [] := h.ne_nil_of_mem (List.mem_cons_of_mem _ List.mem_cons_self)
    have hlength := congrArg List.length hc
    have hpos := List.length_pos_of_ne_nil hrow
    have hpos' := List.length_pos_of_ne_nil hsecond
    simp only [List.flatten_cons, List.length_append, List.length_singleton] at hlength
    omega

/-- Only the grid of a single missing cell is the empty one. -/
theorem isEmptyGrid_of_ne {rows : List (List Cell)} (h : rows ≠ [[missing]]) :
    (grid rows).isEmptyGrid = false := by
  rw [Bool.eq_false_iff]
  intro hempty
  apply h
  cases eq_emptyGrid_of_isEmptyGrid hempty
  rfl

/-- What bounds the width of each row bounds the width of the widest. -/
theorem widest_le {width : Nat} {rows : List (List Cell)}
    (h : ∀ row ∈ rows, row.length ≤ width) : widest rows ≤ width := by
  induction rows with
  | nil => exact Nat.zero_le width
  | cons row rows ih =>
    rw [widest, List.foldr_cons]
    apply Nat.max_le.2
    exact ⟨h row List.mem_cons_self, ih fun r hr => h r (List.mem_cons_of_mem _ hr)⟩

/-- Rows of one length are not padded. -/
theorem padded_of_isRectangular {rows : List (List Cell)} (h : IsRectangular rows) :
    padded rows = grid rows := by
  obtain ⟨width, hpos, hne, hlength⟩ := h
  obtain ⟨first, rest, rfl⟩ := List.exists_cons_of_ne_nil hne
  have hwidest : widest (first :: rest) = width := by
    apply Nat.le_antisymm
    · exact widest_le fun row hr => Nat.le_of_eq (hlength row hr)
    · rw [← hlength first List.mem_cons_self]
      exact length_le_widest List.mem_cons_self
  have hrow : ∀ row ∈ first :: rest, padRow width row = row := by
    intro row hr
    rw [padRow, hlength row hr, Nat.sub_self, List.replicate_zero, List.append_nil]
  rw [padded_of_widest_ne_zero (by omega), hwidest, List.map_congr_left hrow, List.map_id']

end Cell

namespace Registry

open Writing Reading

variable {o way : Orientation} {a d : Arena} {t : DeclType} {v : Value} {vs : List Value}

/-! ## Elements by the type that they show -/

/-- Elements that are each written alike for two types are written alike together. -/
theorem writeItems_congr {r : Registry} {e e' : Option DeclType}
    (h : ∀ v ∈ vs, r.writeElement e v = r.writeElement e' v) :
    r.writeItems e vs = r.writeItems e' vs := by
  induction vs with
  | nil => rw [writeItems_nil, writeItems_nil]
  | cons v vs ih =>
    rw [writeItems_cons, writeItems_cons, h v List.mem_cons_self,
      ih fun w hw => h w (List.mem_cons_of_mem _ hw)]

/-- Entries that are each written alike for two pairs of types are written alike together. -/
theorem writeEntries_congr {r : Registry} {k k' e e' : Option DeclType}
    {entries : List (Value × Value)}
    (h : ∀ x ∈ entries, r.writeElement k x.1 = r.writeElement k' x.1 ∧
      r.writeElement e x.2 = r.writeElement e' x.2) :
    r.writeEntries k e entries = r.writeEntries k' e' entries := by
  induction entries with
  | nil => rw [writeEntries_nil, writeEntries_nil]
  | cons x entries ih =>
    obtain ⟨hkey, hvalue⟩ := h x List.mem_cons_self
    rw [writeEntries_cons, writeEntries_cons, hkey, hvalue,
      ih fun y hy => h y (List.mem_cons_of_mem _ hy)]

/-- A value that is declared by the type that it shows is written by this type. -/
theorem write_of_type? (r : Registry) (h : v.type? = some t) :
    r.write t v = r.writeElement none v := by
  have hv : v ≠ .null := by
    rintro rfl
    cases h
  have htype : typeFor none v = t := by
    rw [typeFor, h]
    rfl
  rw [writeElement_of_ne_null r none hv, htype]
  by_cases ho : t.isOpen = true
  · rw [write_of_open r ho, writeValue_of_type r h]
  · rw [Bool.not_eq_true] at ho
    rw [write_of_closed r ho]

/-- **Elements are written in the same way for the type that they have in common**, where they have
one, as each for its own. -/
theorem writeItems_commonType (r : Registry) (vs : List Value) :
    r.writeItems (Writing.elementType (.array (Value.commonType (Value.types vs)))) vs =
      r.writeItems none vs := by
  apply writeItems_congr
  intro v hv
  by_cases hnull : v = .null
  · rw [hnull, writeElement_null, writeElement_null]
  by_cases hobject : Value.commonType (Value.types vs) = .object
  · rw [hobject]
    rfl
  · rw [Writing.elementType, DeclType.element?_array, writeElement_eq_write r _ hnull]
    exact write_of_type? r (Value.type?_eq_commonType hv hnull hobject)

/-- The type that elements are written for is the one that they are read for, unless it is open. -/
theorem elementType_eq_filter (t : DeclType) :
    Writing.elementType t = (some (Reading.elementType t)).filter fun e => !e.isOpen := by
  rw [Writing.elementType, Reading.elementType]
  cases t.element? <;> rfl

/-! ## Elements that are kept -/

/-- Elements of a container type, and the cell that they are laid out as: they are written in the
same way for their declared type as each for its own, and read again from the cell, unless it stands
for no elements. -/
structure KeptItems (o way : Orientation) (t : DeclType) (vs : List Value) (c : Cell) : Prop where
  written : ∃ cells, (∀ b, ((stock o).writeItems none vs).runOn b = (.ok cells, b)) ∧
    layOut way vs cells = c
  declared : (stock o).writeItems (Writing.elementType t) vs = (stock o).writeItems none vs
  read : c.isEmptyGrid = false → ∀ d, readItems ((stock o).read d) t c = .ok vs

/-- Elements that are each written as a cell in every arena are written as these cells, and the
arena stays. -/
theorem runOn_writeItems {cells : List Cell} {e : DeclType}
    (h : List.Forall₂ (WrittenAs o e) vs cells) (b : Arena) :
    ((stock o).writeItems none vs).runOn b = (.ok cells, b) := by
  induction h with
  | nil =>
    rw [writeItems_nil]
    rfl
  | cons head _ ih =>
    rw [writeItems_cons, runOn_bind_of_ok (head.shown b), runOn_bind_of_ok ih, runOn_pure]

/-- Elements that are written alike for their declared type are written for it as each for its own.
-/
theorem writeItems_declared {cells : List Cell}
    (h : List.Forall₂ (WrittenAs o (Reading.elementType t)) vs cells) :
    (stock o).writeItems (Writing.elementType t) vs = (stock o).writeItems none vs := by
  apply writeItems_congr
  intro v hv
  obtain ⟨c, -, hc⟩ := exists_of_mem_left h hv
  rw [elementType_eq_filter]
  exact hc.declared

/-- Elements that are kept in single cells are kept in a vector of these. -/
theorem KeptItems.of_cells {cells : List Cell} (he : (Reading.elementType t).isContainer = false)
    (h : List.Forall₂ (Kept o (Reading.elementType t)) vs cells) (way : Orientation) :
    KeptItems o way t vs (vector way cells) := by
  have hwritten : List.Forall₂ (WrittenAs o (Reading.elementType t)) vs cells :=
    h.imp fun _ _ hk => hk.written
  have hflat : ∀ v ∈ vs, v.isNested = false := by
    intro v hv
    obtain ⟨c, -, hk⟩ := exists_of_mem_left h hv
    exact hk.flat
  refine ⟨⟨cells, runOn_writeItems hwritten, ?_⟩, writeItems_declared hwritten, ?_⟩
  · exact SequenceOf.layOut_eq_vector way hflat cells
  · intro hfull d
    rw [readItems_vector way he]
    · exact mapM_eq_ok_iff.2 (h.flip.imp fun _ _ hk => hk.read d)
    · rintro rfl
      rw [vector_missing] at hfull
      cases hfull

/-- A container that is an element, and the row that it takes up: the cell that it is written as is
laid out in this row, and it is read from the row again. -/
structure KeptRow (o : Orientation) (e : DeclType) (v : Value) (row : List Cell) : Prop where
  nested : v.isNested = true
  written : ∃ c, WrittenAs o e v c ∧ asRow c = row
  read : ∀ d, (stock o).read d e (.grid [row]) = .ok v

/-- Elements that are kept in rows of one length are kept in the grid of these. -/
theorem KeptItems.of_rows {rows : List (List Cell)} (hrect : Cell.IsRectangular rows)
    (he : (Reading.elementType t).isContainer = true)
    (h : List.Forall₂ (KeptRow o (Reading.elementType t)) vs rows) (way : Orientation) :
    KeptItems o way t vs (.grid rows) := by
  have hcells : ∃ cells, List.Forall₂ (WrittenAs o (Reading.elementType t)) vs cells ∧
      cells.map asRow = rows := by
    clear hrect
    induction h with
    | nil => exact ⟨[], .nil, rfl⟩
    | cons head _ ih =>
      obtain ⟨c, hc, hrow⟩ := head.written
      obtain ⟨cells, hcells, hrows⟩ := ih
      exact ⟨c :: cells, .cons hc hcells, by rw [List.map_cons, hrow, hrows]⟩
  obtain ⟨cells, hwritten, hrows⟩ := hcells
  have hnested : vs.any Value.isNested = true := by
    obtain ⟨row, rest, rfl⟩ := List.exists_cons_of_ne_nil hrect.ne_nil
    obtain ⟨v, hv, hk⟩ := exists_of_mem_left h.flip List.mem_cons_self
    exact List.any_eq_true.2 ⟨v, hv, hk.nested⟩
  refine ⟨⟨cells, runOn_writeItems hwritten, ?_⟩, writeItems_declared hwritten, ?_⟩
  · rw [layOut, if_pos hnested, hrows]
    exact Cell.padded_of_isRectangular hrect
  · intro hfull d
    simp only [readItems, hfull, he, Bool.false_eq_true, if_false, if_true]
    exact mapM_eq_ok_iff.2 (h.flip.imp fun _ _ hk => hk.read d)

/-- No elements are kept in the grid that stands for none. -/
theorem KeptItems.nil (o way : Orientation) (t : DeclType) : KeptItems o way t [] .emptyGrid := by
  have hlaid : layOut way [] [] = .emptyGrid := by
    cases way <;> rfl
  refine ⟨⟨[], fun b => ?_, hlaid⟩, ?_, fun hfull => ?_⟩
  · rw [writeItems_nil]
    rfl
  · rw [writeItems_nil, writeItems_nil]
  · cases hfull

/-! ## Sequences -/

/-- The types of sequences, with what the elements are made into and the way in which they are laid
out. Elements of a collection are made into a list. -/
inductive SequenceType (o : Orientation) : DeclType → (List Value → Value) → Orientation → Prop
  | array (e : DeclType) : SequenceType o (.array e) .array o
  | list {t : DeclType} (h : t.raw? = some .list) : SequenceType o t .list o
  | collection {t : DeclType} (h : t.raw? = some .collection) : SequenceType o t .list o
  | set {t : DeclType} (h : t.raw? = some .set) : SequenceType o t .set .column

variable {make : List Value → Value} {c : Cell}

/-- A container is a value. -/
theorem ne_null_of_isNested (h : v.isNested = true) : v ≠ .null := by
  rintro rfl
  cases h

/-- The sequences of a type are containers. -/
theorem SequenceType.isNested (hs : SequenceType o t make way) (vs : List Value) :
    (make vs).isNested = true := by
  rcases hs <;> rfl

/-- By the type that it shows, a sequence is written element by element. -/
theorem SequenceType.writeElement_eq (hs : SequenceType o t make way) (vs : List Value) :
    (stock o).writeElement none (make vs) = (do
      let cells ← (stock o).writeItems none vs
      pure (layOut way vs cells)) := by
  rcases hs with e | ht | ht | ht
  · rw [← write_of_type? _ (by rw [Value.type?]), write_array, writeItems_commonType]
  · rw [← write_of_type? _ (by rw [Value.type?]), write_list rfl]
    rfl
  · rw [← write_of_type? _ (by rw [Value.type?]), write_list rfl]
    rfl
  · rw [← write_of_type? _ (by rw [Value.type?]), write_set rfl]
    rfl

/-- A sequence of elements that are kept is written as the cell that they are laid out as. -/
theorem SequenceType.writtenAs (hs : SequenceType o t make way) (h : KeptItems o way t vs c) :
    WrittenAs o t (make vs) c := by
  obtain ⟨⟨cells, hcells, hlaid⟩, hdeclared, -⟩ := h
  have hshown := hs.writeElement_eq vs
  have hnull : make vs ≠ .null := ne_null_of_isNested (hs.isNested vs)
  refine ⟨fun b => ?_, ?_⟩
  · rw [hshown, runOn_bind_of_ok (hcells b), hlaid]
    rfl
  · rcases hs with e | ht | ht | ht
    · rw [writeElement_eq_write _ _ hnull, write_array, hdeclared, hshown]
    · rw [writeElement_eq_write _ _ hnull, write_list ht, hdeclared, hshown]
    · rw [Option.filter_some, DeclType.isOpen, ht]
      rfl
    · rw [writeElement_eq_write _ _ hnull, write_set ht, hdeclared, hshown]

/-- Other than for a set, a sequence is read element by element and nothing is dropped. -/
theorem SequenceType.read_eq (hs : SequenceType o t make way) (hset : t.raw? ≠ some .set)
    (d : Arena) (rows : List (List Cell)) :
    (stock o).read d t (.grid rows) = (readItems ((stock o).read d) t (.grid rows)).map make := by
  rcases hs with e | ht | ht | ht
  · exact read_array e rows
  · exact read_list ht rows
  · exact read_collection ht rows
  · exact absurd ht hset

/-! ## Containers -/

/-- A container that was read from some rows and the cell that it is written as: it is read from it
again, and from the row of its cells if it was read from one row. No cell is lost, and there is a
missing cell alone where there was one. -/
structure KeptGrid (o : Orientation) (t : DeclType) (v : Value) (rows : List (List Cell))
    (c : Cell) : Prop where
  nested : v.isNested = true
  written : WrittenAs o t v c
  read : ∀ d, (stock o).read d t c = .ok v
  line : rows.length = 1 → ∀ d, (stock o).read d t (.grid [asRow c]) = .ok v
  length : (asRow c).length = rows.flatten.length
  missing : asRow c = [.missing] → rows = [[.missing]]

/-- What is kept of a row is kept in a row. -/
theorem KeptGrid.keptRow {row : List Cell} (h : KeptGrid o t v [row] c) :
    KeptRow o t v (asRow c) :=
  ⟨h.nested, ⟨c, h.written, rfl⟩, h.line rfl⟩

/-- The grid that stands for no elements is kept. -/
theorem keptGrid_nil (hs : SequenceType o t make way) (hset : t.raw? ≠ some .set) :
    KeptGrid o t (make []) [[.missing]] .emptyGrid := by
  have hread : ∀ d, (stock o).read d t .emptyGrid = .ok (make []) := by
    intro d
    rw [Cell.emptyGrid, hs.read_eq hset d]
    rfl
  exact ⟨hs.isNested [], hs.writtenAs (.nil o way t), hread, fun _ => hread, rfl, fun _ => rfl⟩

/-! ### Elements in single cells -/

/-- Cells that are read one by one are kept one by one. -/
theorem exists_keptCells {e : DeclType} {cells : List Cell}
    (hcasts : (stock o).CastsSettle e cells) (hplain : ∀ c ∈ cells, c.isPlain = true)
    (h : List.Forall₂ (fun c v => readElement ((stock o).read a) e c = .ok v) cells vs) :
    ∃ cells', List.Forall₂ (Kept o e) vs cells' ∧ (cells' = [.missing] → cells = [.missing]) := by
  induction h with
  | nil => exact ⟨[], .nil, id⟩
  | @cons c v cells vs head tail ih =>
    have hmem : c ∈ c :: cells := List.mem_cons_self
    obtain ⟨c', hmissing, hk⟩ := exists_kept (hcasts.of_mem hmem) (hplain c hmem) head
    obtain ⟨cells', hks, -⟩ := ih (hcasts.of_subset fun d hd => List.mem_cons_of_mem _ hd)
      fun d hd => hplain d (List.mem_cons_of_mem _ hd)
    refine ⟨c' :: cells', .cons hk hks, fun hcells => ?_⟩
    obtain ⟨rfl, rfl⟩ := List.cons.inj hcells
    cases hks
    cases tail
    rw [hmissing rfl]

/-- A sequence of elements that are kept in single cells is kept in a vector. -/
theorem KeptGrid.of_cells (hs : SequenceType o t make way) (hset : t.raw? ≠ some .set)
    (he : (Reading.elementType t).isContainer = false) {rows : List (List Cell)} {cells : List Cell}
    (hk : List.Forall₂ (Kept o (Reading.elementType t)) vs cells) (hnil : cells ≠ [])
    (hmissing : cells ≠ [.missing]) (hlength : cells.length = rows.flatten.length) :
    KeptGrid o t (make vs) rows (vector way cells) := by
  have hread : ∀ lie d, (stock o).read d t (vector lie cells) = .ok (make vs) := by
    intro lie d
    have hitems : readItems ((stock o).read d) t (vector lie cells) = .ok vs := by
      apply (KeptItems.of_cells he hk lie).read
      rw [Bool.eq_false_iff]
      intro hempty
      rcases isEmptyGrid_vector hempty with h | h
      · exact hnil h
      · exact hmissing h
    obtain ⟨rows', hrows', -⟩ := exists_rows_of_vector lie hnil
    rw [hrows'] at hitems ⊢
    rw [hs.read_eq hset, hitems]
    rfl
  have hrow : asRow (vector way cells) = cells := by
    obtain ⟨rows', hrows', hflat⟩ := exists_rows_of_vector way hnil
    rw [hrows', asRow, hflat]
  have hline : Cell.grid [cells] = vector .row cells := by
    obtain ⟨c, cs, rfl⟩ := List.exists_cons_of_ne_nil hnil
    rfl
  refine ⟨hs.isNested vs, hs.writtenAs (.of_cells he hk way), hread way, fun _ d => ?_, ?_, ?_⟩
  · rw [hrow, hline]
    exact hread .row d
  · rw [hrow, hlength]
  · intro h
    rw [hrow] at h
    exact absurd h hmissing

/-- A sequence that is read cell by cell is kept in a vector. -/
theorem exists_keptVector (hs : SequenceType o t make way) (hset : t.raw? ≠ some .set)
    (he : (Reading.elementType t).isContainer = false) {rows : List (List Cell)}
    (hrows : Cell.PlainRows rows) (hcasts : (stock o).CastsSettle t rows.flatten)
    (h : readItems ((stock o).read a) t (.grid rows) = .ok vs) :
    ∃ cells, KeptGrid o t (make vs) rows (vector way cells) := by
  by_cases hempty : rows = [[.missing]]
  · subst hempty
    cases h
    refine ⟨[], ?_⟩
    rw [vector_nil]
    exact keptGrid_nil hs hset
  rw [readItems_of_cells he (Cell.isEmptyGrid_of_ne hempty)] at h
  have hreads := mapM_eq_ok_iff.1 h
  obtain ⟨cells, hk, hmissing⟩ :=
    exists_keptCells (hcasts.of_part (elementType_mem t)) hrows.plain hreads
  have hlength : cells.length = rows.flatten.length := by
    rw [← hk.length_eq, ← hreads.length_eq]
  refine ⟨cells, .of_cells hs hset he hk ?_ ?_ hlength⟩
  · rintro rfl
    exact hrows.rectangular.flatten_ne_nil (List.length_eq_zero_iff.1 hlength.symm)
  · exact fun hm => hempty (hrows.rectangular.eq_of_flatten (hmissing hm))

/-! ### Elements in rows -/

/-- A row, and the row that became of it. -/
structure SameRow (row row' : List Cell) : Prop where
  length : row'.length = row.length
  missing : row' = [.missing] → row = [.missing]

/-- Rows of the same lengths are a rectangle where the others are. -/
theorem sameRows_isRectangular {rows rows' : List (List Cell)} (h : List.Forall₂ SameRow rows rows')
    (hrect : Cell.IsRectangular rows) : Cell.IsRectangular rows' := by
  obtain ⟨width, hpos, hne, hlength⟩ := hrect
  refine ⟨width, hpos, ?_, ?_⟩
  · rintro rfl
    cases h
    exact hne rfl
  · intro row' hrow'
    obtain ⟨row, hrow, hsame⟩ := exists_of_mem_left h.flip hrow'
    rw [hsame.length, hlength row hrow]

/-- Rows of the same lengths have as many cells together. -/
theorem sameRows_length_flatten {rows rows' : List (List Cell)}
    (h : List.Forall₂ SameRow rows rows') : rows'.flatten.length = rows.flatten.length := by
  induction h with
  | nil => rfl
  | cons head _ ih => rw [List.flatten_cons, List.flatten_cons, List.length_append,
      List.length_append, head.length, ih]

/-- A single missing cell comes from a single missing cell. -/
theorem sameRows_missing {rows rows' : List (List Cell)} (h : List.Forall₂ SameRow rows rows')
    (hrows' : rows' = [[.missing]]) : rows = [[.missing]] := by
  subst hrows'
  rcases h with _ | ⟨head, tail⟩
  cases tail
  rw [head.missing rfl]

/-- Rows that are read one by one are kept one by one, given that each is. -/
theorem exists_keptRows {e : DeclType} {rows : List (List Cell)}
    (hkeep : ∀ row ∈ rows, ∀ v, (stock o).read a e (.grid [row]) = .ok v →
      ∃ c, KeptGrid o e v [row] c)
    (h : List.Forall₂ (fun row v => (stock o).read a e (.grid [row]) = .ok v) rows vs) :
    ∃ rows', List.Forall₂ (KeptRow o e) vs rows' ∧ List.Forall₂ SameRow rows rows' := by
  induction h with
  | nil => exact ⟨[], .nil, .nil⟩
  | @cons row v rows vs head _ ih =>
    obtain ⟨c, hk⟩ := hkeep row List.mem_cons_self v head
    obtain ⟨rows', hks, hsame⟩ := ih fun r hr => hkeep r (List.mem_cons_of_mem _ hr)
    refine ⟨asRow c :: rows', .cons hk.keptRow hks, .cons ⟨?_, fun hm => ?_⟩ hsame⟩
    · rw [hk.length, List.flatten_singleton]
    · exact List.singleton_inj.1 (hk.missing hm)

/-- What is kept in rows of the same lengths, not all of them one missing cell, is kept in one line
as well, for one row is the line of its cells. -/
theorem KeptGrid.of_sameRows {rows rows' : List (List Cell)} (hn : v.isNested = true)
    (hw : WrittenAs o t v (.grid rows')) (hread : ∀ d, (stock o).read d t (.grid rows') = .ok v)
    (hrect : Cell.IsRectangular rows') (hfull : rows' ≠ [[.missing]])
    (hsame : List.Forall₂ SameRow rows rows') : KeptGrid o t v rows (.grid rows') := by
  refine ⟨hn, hw, hread, fun hone d => ?_, sameRows_length_flatten hsame, fun hm => ?_⟩
  · obtain ⟨row', rfl⟩ := List.length_eq_one_iff.1 (hsame.length_eq.symm.trans hone)
    rw [asRow, List.flatten_singleton]
    exact hread d
  · exact absurd (hrect.eq_of_flatten hm) hfull

/-- A sequence of elements that are kept in rows is kept in the grid of these. -/
theorem KeptGrid.of_rows (hs : SequenceType o t make way) (hset : t.raw? ≠ some .set)
    (he : (Reading.elementType t).isContainer = true) {rows rows' : List (List Cell)}
    (hrect : Cell.IsRectangular rows') (hfull : rows' ≠ [[.missing]])
    (hk : List.Forall₂ (KeptRow o (Reading.elementType t)) vs rows')
    (hsame : List.Forall₂ SameRow rows rows') : KeptGrid o t (make vs) rows (.grid rows') := by
  have hkept : KeptItems o way t vs (.grid rows') := .of_rows hrect he hk way
  refine .of_sameRows (hs.isNested vs) (hs.writtenAs hkept) (fun d => ?_) hrect hfull hsame
  rw [hs.read_eq hset, hkept.read (Cell.isEmptyGrid_of_ne hfull) d]
  rfl

/-- A sequence that is read row by row is kept in rows of the same lengths, given that every element
is kept. -/
theorem exists_keptGrid_of_rows (hs : SequenceType o t make way) (hset : t.raw? ≠ some .set)
    (he : (Reading.elementType t).isContainer = true) {rows : List (List Cell)}
    (hrect : Cell.IsRectangular rows)
    (hkeep : ∀ row ∈ rows, ∀ v, (stock o).read a (Reading.elementType t) (.grid [row]) = .ok v →
      ∃ c, KeptGrid o (Reading.elementType t) v [row] c)
    (h : readItems ((stock o).read a) t (.grid rows) = .ok vs) :
    ∃ rows', List.Forall₂ SameRow rows rows' ∧ KeptGrid o t (make vs) rows (.grid rows') := by
  by_cases hempty : rows = [[.missing]]
  · subst hempty
    cases h
    exact ⟨[[.missing]], .cons ⟨rfl, id⟩ .nil, keptGrid_nil hs hset⟩
  simp only [readItems, Cell.isEmptyGrid_of_ne hempty, he, Bool.false_eq_true, if_false,
    if_true] at h
  obtain ⟨rows', hk, hsame⟩ := exists_keptRows hkeep (mapM_eq_ok_iff.1 h)
  have hfull : rows' ≠ [[.missing]] := fun hm => hempty (sameRows_missing hsame hm)
  exact ⟨rows', hsame, .of_rows hs hset he (sameRows_isRectangular hsame hrect) hfull hk hsame⟩

/-! ### Entries -/

/-- The types that keys and values are written for are those that they are read for, unless open. -/
theorem entryTypes_eq_filter (t : DeclType) :
    keyType t = ((some (entryTypes t).1).filter fun e => !e.isOpen) ∧
      valueType t = ((some (entryTypes t).2).filter fun e => !e.isOpen) := by
  rw [keyType, valueType, entryTypes]
  cases t.mapTypes? <;> exact ⟨rfl, rfl⟩

/-- An entry of a map, and the row in which its key and its value are kept. -/
inductive KeptEntry (o : Orientation) (types : DeclType × DeclType) :
    Value × Value → List Cell → Prop
  | mk {k v : Value} {c d : Cell} (key : Kept o types.1 k c) (value : Kept o types.2 v d) :
      KeptEntry o types (k, v) [c, d]

/-- An entry that is kept is read again from its row. -/
theorem KeptEntry.read {types : DeclType × DeclType} {x : Value × Value} {row : List Cell}
    (h : KeptEntry o types x row) (d : Arena) :
    readEntry ((stock o).read d) types row = .ok x := by
  rcases h with ⟨hkey, hvalue⟩
  rw [readEntry, hkey.read d, hvalue.read d]
  rfl

/-- The row of an entry has two cells. -/
theorem KeptEntry.length {types : DeclType × DeclType} {x : Value × Value} {row : List Cell}
    (h : KeptEntry o types x row) : row.length = 2 := by
  rcases h with ⟨-, -⟩
  rfl

/-- Rows that are read as entries are kept one by one. -/
theorem exists_keptEntries {types : DeclType × DeclType} {rows : List (List Cell)}
    {entries : List (Value × Value)} (hkeys : (stock o).CastsSettle types.1 rows.flatten)
    (hvalues : (stock o).CastsSettle types.2 rows.flatten)
    (hplain : ∀ c ∈ rows.flatten, c.isPlain = true)
    (h : List.Forall₂ (fun row x => readEntry ((stock o).read a) types row = .ok x) rows entries) :
    ∃ rows', List.Forall₂ (KeptEntry o types) entries rows' ∧ List.Forall₂ SameRow rows rows' := by
  induction h with
  | nil => exact ⟨[], .nil, .nil⟩
  | @cons row x rows entries head _ ih =>
    have hin : ∀ c ∈ row, c ∈ (row :: rows).flatten :=
      fun c hc => List.mem_flatten.2 ⟨row, List.mem_cons_self, hc⟩
    have hrest : ∀ c ∈ rows.flatten, c ∈ (row :: rows).flatten := by
      intro c hc
      rw [List.flatten_cons]
      exact List.mem_append_right _ hc
    obtain ⟨rows', hks, hsame⟩ := ih (hkeys.of_subset hrest) (hvalues.of_subset hrest)
      fun c hc => hplain c (hrest c hc)
    unfold readEntry at head
    split at head
    · rename_i c d
      obtain ⟨key, hkey, head⟩ := bind_eq_ok_iff.1 head
      obtain ⟨value, hvalue, head⟩ := bind_eq_ok_iff.1 head
      cases head
      have hc : c ∈ ([c, d] :: rows).flatten := hin c (by simp)
      have hd : d ∈ ([c, d] :: rows).flatten := hin d (by simp)
      obtain ⟨c', -, hkc⟩ := exists_kept (hkeys.of_mem hc) (hplain c hc) hkey
      obtain ⟨d', -, hkd⟩ := exists_kept (hvalues.of_mem hd) (hplain d hd) hvalue
      exact ⟨[c', d'] :: rows', .cons (.mk hkc hkd) hks, .cons ⟨rfl, by rintro ⟨⟩⟩ hsame⟩
    · cases head

/-- A map of entries that are kept is written as the grid of their rows. -/
theorem writtenAs_map {rows : List (List Cell)} {entries : List (Value × Value)}
    (ht : t.raw? = some .map)
    (h : List.Forall₂ (KeptEntry o (entryTypes t)) entries rows) :
    WrittenAs o t (.map entries) (layOutRows rows) := by
  have hgives : ∀ b, ((stock o).writeEntries none none entries).runOn b = (.ok rows, b) := by
    intro b
    induction h with
    | nil =>
      rw [writeEntries_nil]
      rfl
    | cons head _ ih =>
      rcases head with ⟨hkey, hvalue⟩
      rw [writeEntries_cons, runOn_bind_of_ok (hkey.written.shown b),
        runOn_bind_of_ok (hvalue.written.shown b), runOn_bind_of_ok ih, runOn_pure]
  have hdeclared : (stock o).writeEntries (keyType t) (valueType t) entries =
      (stock o).writeEntries none none entries := by
    apply writeEntries_congr
    intro x hx
    obtain ⟨row, -, hk⟩ := exists_of_mem_left h hx
    rcases hk with ⟨hkey, hvalue⟩
    rw [(entryTypes_eq_filter t).1, (entryTypes_eq_filter t).2]
    exact ⟨hkey.written.declared, hvalue.written.declared⟩
  have hshown : (stock o).writeElement none (.map entries) = (do
      let rows ← (stock o).writeEntries none none entries
      pure (layOutRows rows)) := by
    rw [← write_of_type? _ (by rw [Value.type?]), write_map rfl]
    rfl
  refine ⟨fun b => ?_, ?_⟩
  · rw [hshown, runOn_bind_of_ok (hgives b)]
    rfl
  · rw [writeElement_eq_write _ _ (by simp), write_map ht, hdeclared, hshown]

/-- A map of entries that are kept is read from the grid of their rows. -/
theorem read_map_of_kept {rows : List (List Cell)} {entries : List (Value × Value)}
    (ht : t.raw? = some .map) (hne : rows ≠ [])
    (h : List.Forall₂ (KeptEntry o (entryTypes t)) entries rows) :
    rows ≠ [[.missing]] ∧ ∀ d, (stock o).read d t (.grid rows) = .ok (.map entries) := by
  obtain ⟨first, rest, rfl⟩ := List.exists_cons_of_ne_nil hne
  have htwo : first.length = 2 := by
    obtain ⟨x, -, hx⟩ := exists_of_mem_left h.flip List.mem_cons_self
    exact hx.length
  have hfull : first :: rest ≠ [[.missing]] := by
    intro hm
    obtain ⟨rfl, -⟩ := List.cons.inj hm
    cases htwo
  refine ⟨hfull, fun d => ?_⟩
  have hdims : (Cell.grid (first :: rest)).dims.2 = 2 := htwo
  have hreads := mapM_eq_ok_iff.2 (h.flip.imp fun _ _ hx => hx.read d)
  rw [read_map ht]
  simp only [readMap, Cell.isEmptyGrid_of_ne hfull, hdims, Bool.false_eq_true, if_false, ne_eq,
    not_true_eq_false]
  rw [hreads]
  rfl

/-- **A map is kept**, in rows of two cells. -/
theorem exists_keptGrid_map (ht : t.raw? = some .map) {rows : List (List Cell)}
    (hrows : Cell.PlainRows rows) (hcasts : (stock o).CastsSettle t rows.flatten)
    (h : (stock o).read a t (.grid rows) = .ok v) : ∃ c, KeptGrid o t v rows c := by
  rw [read_map ht] at h
  by_cases hempty : rows = [[.missing]]
  · subst hempty
    cases h
    have hread : ∀ d, (stock o).read d t .emptyGrid = .ok (.map []) := by
      intro d
      rw [Cell.emptyGrid, read_map ht]
      rfl
    have hwritten : WrittenAs o t (.map []) .emptyGrid := writtenAs_map ht .nil
    exact ⟨.emptyGrid, rfl, hwritten, hread, fun _ => hread, rfl, fun _ => rfl⟩
  simp only [readMap, Cell.isEmptyGrid_of_ne hempty, Bool.false_eq_true, if_false] at h
  split at h
  · cases h
  obtain ⟨entries, hentries, rfl⟩ := map_eq_ok_iff.1 h
  obtain ⟨hkey, hvalue⟩ := entryTypes_mem t
  obtain ⟨rows', hk, hsame⟩ := exists_keptEntries (hcasts.of_part hkey) (hcasts.of_part hvalue)
    hrows.plain (mapM_eq_ok_iff.1 hentries)
  have hrect : Cell.IsRectangular rows' := sameRows_isRectangular hsame hrows.rectangular
  obtain ⟨hfull, hread⟩ := read_map_of_kept ht hrect.ne_nil hk
  have hwritten : WrittenAs o t (.map entries) (.grid rows') := by
    have hlaid : layOutRows rows' = .grid rows' := by
      rw [layOutRows, List.isEmpty_eq_false_iff.2 hrect.ne_nil]
      rfl
    rw [← hlaid]
    exact writtenAs_map ht hk
  exact ⟨.grid rows', .of_sameRows rfl hwritten hread hrect hfull hsame⟩

/-! ### All containers -/

/-- A container type is one of maps or one of sequences. -/
theorem exists_sequenceType (o : Orientation) (ht : t.isContainer = true) :
    t.raw? = some .map ∨ ∃ make way, SequenceType o t make way := by
  rw [DeclType.isContainer] at ht
  split at ht
  · rename_i hraw
    obtain ⟨e, rfl⟩ := DeclType.raw?_eq_none_iff.1 hraw
    exact Or.inr ⟨_, _, .array e⟩
  · exact Or.inr ⟨_, _, .list ‹_›⟩
  · exact Or.inr ⟨_, _, .set ‹_›⟩
  · exact Or.inr ⟨_, _, .collection ‹_›⟩
  · exact Or.inl ‹_›
  · cases ht

/-- A class that does not occur in a type does not occur in that of its elements, where these are
containers. -/
theorem mentions_elementType {s : RawType} (he : (Reading.elementType t).isContainer = true)
    (h : t.mentions s = false) : (Reading.elementType t).mentions s = false := by
  rcases elementType_mem t with hmem | hobject
  · rw [Bool.eq_false_iff] at h ⊢
    exact fun hm => h (DeclType.mentions_iff.2 (Or.inr ⟨_, hmem, hm⟩))
  · rw [hobject] at he
    cases he

/-- **Containers are kept**, provided that no set lies within them. The induction is on the type:
elements that are containers are read for a smaller one, and are kept in the row that each takes up.
-/
theorem exists_keptGrid {t : DeclType} {v : Value} (ht : t.isContainer = true)
    (hset : t.mentions .set = false) {rows : List (List Cell)} (hrows : Cell.PlainRows rows)
    (hcasts : (stock o).CastsSettle t rows.flatten)
    (h : (stock o).read a t (.grid rows) = .ok v) : ∃ c, KeptGrid o t v rows c := by
  rcases exists_sequenceType o ht with hmap | ⟨make, way, hs⟩
  · exact exists_keptGrid_map hmap hrows hcasts h
  have hraw : t.raw? ≠ some .set := by
    intro hraw
    rw [DeclType.mentions_iff.2 (Or.inl hraw)] at hset
    cases hset
  rw [hs.read_eq hraw] at h
  obtain ⟨vs, hvs, rfl⟩ := map_eq_ok_iff.1 h
  by_cases he : (Reading.elementType t).isContainer = true
  · have hkeep : ∀ row ∈ rows, ∀ w, (stock o).read a (Reading.elementType t) (.grid [row]) = .ok w →
        ∃ c, KeptGrid o (Reading.elementType t) w [row] c := by
      intro row hrow w hw
      have hrowcasts := (hcasts.of_part (elementType_mem t)).of_row hrow
      exact exists_keptGrid he (mentions_elementType he hset) (hrows.row hrow) hrowcasts hw
    obtain ⟨rows', -, hk⟩ := exists_keptGrid_of_rows hs hraw he hrows.rectangular hkeep hvs
    exact ⟨.grid rows', hk⟩
  · rw [Bool.not_eq_true] at he
    obtain ⟨cells, hk⟩ := exists_keptVector hs hraw he hrows hcasts hvs
    exact ⟨vector way cells, hk⟩
termination_by t.size
decreasing_by exact size_elementType_lt he

end Registry

end CellMarshal
