import CellMarshal.Proofs.Reading.Parts

/-!
# Why reading fails

A reading by a converter that was found fails for one of four reasons: a value or a cell is missing,
a cell is of another form than the converter reads, a reference names no object, or there is no
converter for something that lies within the cell. What lies within a cell are the cells of a grid,
at any depth, and the rows of a grid, which are read as grids of their own where the elements are
containers themselves. The bound on how deep readings nest is never the reason.

Given a cell, a form comes to two of these by itself (`Failure.IsOwn`); any other failure is that of
one of the parts that it takes the cell apart into. `Failure.OfReading` collects the reasons. Main
statements: `isOwn_or_of_readForm` (what a form fails for by itself, and what for a part),
`ofReading_of_readBy` (one converter, given why the readings within it fail) and
`ofReading_of_readWith`.
-/

namespace CellMarshal

/-! ## Sorts of failures -/

/-- There is no converter for something that lies within a cell. -/
inductive Failure.LacksWithin (r : Registry) (c : Cell) : Failure → Prop
  /-- No converter for a cell in the grid. -/
  | cell {type : DeclType} {d : Cell} (hd : d.Inside c) (hr : r.reader? type d.kind = none) :
      LacksWithin r c (.noConverter type.display d.kind.word)
  /-- No converter for a row of the grid, or of a grid in it, that was to be read as a container. -/
  | row {type : DeclType} {row : List Cell} {rows : List (List Cell)} (hrow : row ∈ rows)
      (hrows : .grid rows = c ∨ (Cell.grid rows).Inside c) (ht : type.isContainer = true)
      (hr : r.reader? type .grid = none) :
      LacksWithin r c (.noConverter type.display CellKind.grid.word)

/-- The reasons for which the reading of a cell by a converter fails. -/
inductive Failure.OfReading (r : Registry) (c : Cell) : Failure → Prop
  | nullArgument (context : String) : OfReading r c (.nullArgument context)
  | typeMismatch (expected found : String) : OfReading r c (.typeMismatch expected found)
  | invalidHandle (h : Handle) : OfReading r c (.invalidHandle h)
  | lacking {f : Failure} (h : f.LacksWithin r c) : OfReading r c f

namespace Failure

variable {r : Registry} {f : Failure} {c : Cell} {row : List Cell} {rows : List (List Cell)}

/-- The want of a converter within a cell is the want of a converter. -/
theorem LacksWithin.kind_eq (h : f.LacksWithin r c) : f.kind = .noConverter := by
  cases h <;> rfl

/-- Only grids have something within them. -/
theorem LacksWithin.kind_eq_grid (h : f.LacksWithin r c) : c.kind = .grid := by
  cases h with
  | cell hd hr => exact hd.kind_eq_grid
  | row hrow hrows ht hr =>
    rcases hrows with rfl | h
    · rfl
    · exact h.kind_eq_grid

/-- What a cell of a grid lacks, the grid lacks. -/
theorem LacksWithin.of_cell {d : Cell} (h : f.LacksWithin r d) (hrow : row ∈ rows) (hd : d ∈ row) :
    f.LacksWithin r (.grid rows) := by
  cases h with
  | cell hd' hr => exact .cell (.deeper hrow hd hd') hr
  | row hrow' hrows ht hr =>
    refine .row hrow' (Or.inr ?_) ht hr
    rcases hrows with h | h
    · exact .here hrow (h ▸ hd)
    · exact .deeper hrow hd h

/-- What a row of a grid lacks as a grid of its own, the grid lacks. -/
theorem LacksWithin.of_row (h : f.LacksWithin r (.grid [row])) (hrow : row ∈ rows) :
    f.LacksWithin r (.grid rows) := by
  cases h with
  | cell hd hr => exact .cell (hd.of_row hrow) hr
  | row hrow' hrows ht hr =>
    rcases hrows with h | h
    · cases h
      rw [List.mem_singleton] at hrow'
      exact .row hrow (Or.inl rfl) ht hr
    · exact .row hrow' (Or.inr (h.of_row hrow)) ht hr

/-- A failure with a cell of a grid is one with the grid. -/
theorem OfReading.of_cell {d : Cell} (h : f.OfReading r d) (hrow : row ∈ rows) (hd : d ∈ row) :
    f.OfReading r (.grid rows) := by
  cases h with
  | nullArgument context => exact .nullArgument context
  | typeMismatch expected found => exact .typeMismatch expected found
  | invalidHandle h => exact .invalidHandle h
  | lacking h => exact .lacking (h.of_cell hrow hd)

/-- A failure with a row of a grid, taken as a grid of its own, is one with the grid. -/
theorem OfReading.of_row (h : f.OfReading r (.grid [row])) (hrow : row ∈ rows) :
    f.OfReading r (.grid rows) := by
  cases h with
  | nullArgument context => exact .nullArgument context
  | typeMismatch expected found => exact .typeMismatch expected found
  | invalidHandle h => exact .invalidHandle h
  | lacking h => exact .lacking (h.of_row hrow)

end Failure

/-! ## Single cells -/

namespace Scalar

/-- A conversion that fails with a mismatch alone. -/
def Mismatches {α : Type} (e : Except Failure α) : Prop :=
  ∀ f, e = .error f → ∃ expected found, f = .typeMismatch expected found

/-- A conversion that succeeds does not fail. -/
theorem mismatches_ok {α : Type} (x : α) : Mismatches (.ok x) :=
  fun f hf => by cases hf

/-- A conversion may fail with a mismatch. -/
theorem mismatches_error {α : Type} (expected found : String) :
    Mismatches (.error (.typeMismatch expected found) : Except Failure α) :=
  fun f hf => by
    cases hf
    exact ⟨expected, found, rfl⟩

/-- Mapping the result does not concern the failure. -/
theorem Mismatches.map {α β : Type} {e : Except Failure α} (h : Mismatches e) (g : α → β) :
    Mismatches (e.map g) :=
  fun f hf => h f (map_eq_error_iff.1 hf)

/-- Reading a number fails with a mismatch alone. -/
theorem mismatches_readNumeric (p : Primitive) (c : Cell) : Mismatches (readNumeric p c) := by
  unfold readNumeric
  split
  · exact mismatches_error _ _
  · split
    · exact mismatches_ok _
    · exact mismatches_ok _

/-- Reading a truth value fails with a mismatch alone. -/
theorem mismatches_readLogical (c : Cell) : Mismatches (readLogical c) := by
  unfold readLogical
  split
  · exact mismatches_ok _
  · exact mismatches_error _ _

/-- Reading a truth value from a number fails with a mismatch alone. -/
theorem mismatches_readLogicalNumeric (c : Cell) : Mismatches (readLogicalNumeric c) := by
  unfold readLogicalNumeric
  split
  · exact mismatches_ok _
  · exact mismatches_error _ _

/-- Reading a text fails with a mismatch alone. -/
theorem mismatches_readText (c : Cell) : Mismatches (readText c) := by
  unfold readText
  split
  · exact mismatches_ok _
  · exact mismatches_error _ _

/-- Reading a text from a number fails with a mismatch alone. -/
theorem mismatches_readTextNumeric (c : Cell) : Mismatches (readTextNumeric c) := by
  unfold readTextNumeric
  split
  · exact mismatches_ok _
  · exact mismatches_error _ _

/-- Reading a character fails with a mismatch alone. -/
theorem mismatches_readCharText (c : Cell) : Mismatches (readCharText c) := by
  unfold readCharText
  split
  · split
    · exact mismatches_ok _
    · exact mismatches_error _ _
  · exact mismatches_error _ _

/-- Reading a serial fails with a mismatch alone, be it no number or no date. -/
theorem mismatches_readSerial (c : Cell) : Mismatches (readSerial c) := by
  unfold readSerial
  split
  · exact mismatches_error _ _
  · split
    · exact mismatches_ok _
    · exact mismatches_error _ _

end Scalar

/-- The failure of an element of a primitive type that is missing. -/
def Failure.emptyElement (elem : DeclType) : Failure :=
  .nullArgument ("empty cell for " ++ elem.display ++ " element")

/-- The failures that a converter comes to by itself, with a cell or with what a reference leads to.
-/
inductive Failure.IsOwn : Failure → Prop
  | typeMismatch (expected found : String) : IsOwn (.typeMismatch expected found)
  | invalidHandle (h : Handle) : IsOwn (.invalidHandle h)

namespace Reading

variable {r : Registry} {a : Arena} {inner : Inner} {target : DeclType} {c : Cell} {f : Failure}

/-! ## Parts -/

/-- An element fails because it is missing where there has to be one, or as its reading does. -/
theorem readElement_eq_error {elem : DeclType} (h : readElement inner elem c = .error f) :
    (c = .missing ∧ elem.isPrimitive = true ∧ f = .emptyElement elem) ∨
      ((c.isMissing && !elem.isCell) = false ∧ inner elem c = .error f) := by
  unfold readElement at h
  split at h
  · rename_i hmissing
    rw [Bool.and_eq_true, Cell.isMissing_iff] at hmissing
    split at h
    · cases h
      exact Or.inl ⟨hmissing.1, ‹_›, rfl⟩
    · cases h
  · exact Or.inr ⟨by simpa using ‹¬ (c.isMissing && !elem.isCell) = true›, h⟩

/-- A part of the cell fails, and the converter as it does. -/
def PartFails (inner : Inner) (form : ConverterForm) (target : DeclType) (c : Cell) (f : Failure) :
    Prop :=
  ∃ part ∈ parts form target c, readPart inner part = .error f

/-- A mismatch is a failure that a converter comes to by itself. -/
theorem isOwn_of_mismatches {e : Except Failure Value} (h : Scalar.Mismatches e)
    (he : e = .error f) : f.IsOwn := by
  obtain ⟨expected, found, rfl⟩ := h f he
  exact .typeMismatch _ _

/-- A sequence fails by itself, on a cell that is no grid, or as one of its parts does. -/
theorem isOwn_or_of_readItems {form : ConverterForm} (h : readItems inner target c = .error f)
    (hparts : ∀ rows, (Cell.grid rows).isEmptyGrid = false →
      parts form target (.grid rows) = itemParts target rows) :
    f.IsOwn ∨ PartFails inner form target c f := by
  cases c with
  | grid rows =>
    cases hempty : (Cell.grid rows).isEmptyGrid with
    | true => simp [readItems, hempty] at h
    | false =>
      rw [readItems_grid hempty] at h
      right
      rw [PartFails, hparts rows hempty]
      exact exists_of_mapM_eq_error h
  | _ =>
    cases h
    exact Or.inl (.typeMismatch _ _)

/-- An open array fails by itself, on a cell that is no grid, or as one of its cells does. -/
theorem isOwn_or_of_readOpenArray (harray : ¬ target.isArray = true)
    (h : readOpenArray inner c = .error f) : f.IsOwn ∨ PartFails inner .array target c f := by
  unfold readOpenArray at h
  split at h
  · rename_i rows
    split at h
    · cases h
    · rename_i hempty
      -- the cells of a row by itself and of the rows of a wider grid are read alike
      have hcell : ∃ d ∈ rows.flatten, readElement inner .object d = .error f := by
        split at h
        · exact exists_of_mapM_eq_error (map_eq_error_iff.1 h)
        · obtain ⟨row, hrow, h⟩ := exists_of_mapM_eq_error (map_eq_error_iff.1 h)
          obtain ⟨d, hd, h⟩ := exists_of_mapM_eq_error (map_eq_error_iff.1 h)
          exact ⟨d, List.mem_flatten.2 ⟨row, hrow, hd⟩, h⟩
      obtain ⟨d, hd, hread⟩ := hcell
      right
      rw [PartFails, parts_grid_of_array (by simpa using hempty), if_neg harray]
      exact ⟨(.object, d), List.mem_map.2 ⟨d, hd, rfl⟩, hread⟩
  · cases h
    exact Or.inl (.typeMismatch _ _)

/-- An entry fails by itself, on a row that has not two cells, or as its key or its value does. -/
theorem isOwn_or_of_readEntry {row : List Cell}
    (h : readEntry inner (entryTypes target) row = .error f) :
    f.IsOwn ∨ ∃ part ∈ entryParts target row, readPart inner part = .error f := by
  unfold readEntry at h
  split at h
  · rcases bind_eq_error_iff.1 h with h | ⟨x, -, h⟩
    · exact Or.inr ⟨_, List.mem_cons_self, h⟩
    · rcases bind_eq_error_iff.1 h with h | ⟨y, -, h⟩
      · exact Or.inr ⟨_, List.mem_cons_of_mem _ List.mem_cons_self, h⟩
      · cases h
  · cases h
    exact Or.inl (.typeMismatch _ _)

/-- A map fails by itself, on a cell that has not two columns, or as one of its parts does. -/
theorem isOwn_or_of_readMap (h : readMap inner target c = .error f) :
    f.IsOwn ∨ PartFails inner .map target c f := by
  unfold readMap at h
  split at h
  · split at h
    · cases h
    · split at h
      · cases h
        exact Or.inl (.typeMismatch _ _)
      · rename_i hempty hdims
        obtain ⟨row, hrow, h⟩ := exists_of_mapM_eq_error (map_eq_error_iff.1 h)
        refine (isOwn_or_of_readEntry h).imp_right ?_
        rintro ⟨part, hpart, hread⟩
        rw [PartFails, parts_grid_of_map (by simpa using hempty) (by simpa using hdims)]
        exact ⟨part, List.mem_flatMap.2 ⟨row, hrow, hpart⟩, hread⟩
  · cases h
    exact Or.inl (.typeMismatch _ _)

/-! ## References -/

/-- Where a reference is handed on, the failure is one of the converter itself. -/
theorem isOwn_of_readHandle (h : readHandle c = .error f) : f.IsOwn := by
  unfold readHandle at h
  split at h
  · cases h
  · cases h
  · cases h
    exact .typeMismatch _ _

/-- Where a reference is followed, the failure is one of the converter itself. -/
theorem isOwn_of_readObject (h : readObject a target c = .error f) : f.IsOwn := by
  unfold readObject at h
  split at h
  · rcases bind_eq_error_iff.1 h with h | ⟨o, -, h⟩
    · unfold Arena.get at h
      split at h
      · cases h
      · cases h
        exact .invalidHandle _
    · split at h
      · cases h
      · cases h
        exact .typeMismatch _ _
  · cases h
    exact .typeMismatch _ _

/-! ## One converter -/

/-- **Each form fails by itself or as a part of the cell does.** -/
theorem isOwn_or_of_readForm {form : ConverterForm}
    (h : readForm a inner form target c = .error f) :
    f.IsOwn ∨ PartFails inner form target c f := by
  cases form with
  | numeric p => exact Or.inl (isOwn_of_mismatches (Scalar.mismatches_readNumeric p c) h)
  | logical => exact Or.inl (isOwn_of_mismatches (Scalar.mismatches_readLogical c) h)
  | logicalNumeric => exact Or.inl (isOwn_of_mismatches (Scalar.mismatches_readLogicalNumeric c) h)
  | text => exact Or.inl (isOwn_of_mismatches (Scalar.mismatches_readText c) h)
  | textNumeric => exact Or.inl (isOwn_of_mismatches (Scalar.mismatches_readTextNumeric c) h)
  | charText => exact Or.inl (isOwn_of_mismatches (Scalar.mismatches_readCharText c) h)
  | date => exact Or.inl (isOwn_of_mismatches ((Scalar.mismatches_readSerial c).map _) h)
  | dateTime => exact Or.inl (isOwn_of_mismatches ((Scalar.mismatches_readSerial c).map _) h)
  | list =>
    exact isOwn_or_of_readItems (map_eq_error_iff.1 h) fun _ => parts_grid_of_sequence (Or.inl rfl)
  | set =>
    exact isOwn_or_of_readItems (map_eq_error_iff.1 h) fun _ => parts_grid_of_sequence (Or.inr rfl)
  | map => exact isOwn_or_of_readMap h
  | array =>
    have hread : readArray inner target c = .error f := h
    unfold readArray at hread
    split at hread
    · rename_i harray
      refine isOwn_or_of_readItems (map_eq_error_iff.1 hread) fun rows hempty => ?_
      rw [parts_grid_of_array hempty, if_pos harray]
    · exact isOwn_or_of_readOpenArray ‹_› hread
  | handle => exact Or.inl (isOwn_of_readHandle h)
  | cell => cases h
  | objectHandle => exact Or.inl (isOwn_of_readObject h)

/-- Why an inner reading fails: it has no converter, or the one that it has fails. -/
def FailsAs (r : Registry) (type : DeclType) (d : Cell) (f : Failure) : Prop :=
  (r.reader? type d.kind = none ∧ f = .noConverter type.display d.kind.word) ∨ f.OfReading r d

/-- The failures of the readings within a cell are known. -/
def KnowsInner (r : Registry) (inner : Inner) (target : DeclType) (c : Cell) : Prop :=
  ∀ t d, IsInner t d target c → ∀ f, inner t d = .error f → FailsAs r t d f

/-- What a converter comes to by itself is a reason for which a reading fails. -/
theorem ofReading_of_isOwn (h : f.IsOwn) : f.OfReading r c := by
  cases h with
  | typeMismatch expected found => exact .typeMismatch expected found
  | invalidHandle h => exact .invalidHandle h

/-- A cell fails as its parts do: what is missing in a part is missing in the cell. -/
theorem ofReading_of_isPart {t : DeclType} {d : Cell} (h : FailsAs r t d f)
    (hpart : IsPart t target d c) : f.OfReading r c := by
  cases hpart with
  | cell _ hrow hd =>
    rcases h with ⟨hr, rfl⟩ | h
    · exact .lacking (.cell (.here hrow hd) hr)
    · exact h.of_cell hrow hd
  | row hcontainer _ hrow =>
    rcases h with ⟨hr, rfl⟩ | h
    · exact .lacking (.row hrow (Or.inl rfl) hcontainer hr)
    · exact h.of_row hrow

/-- What a part fails with is a reason for which the reading of the cell fails. -/
theorem ofReading_of_partFails {form : ConverterForm} (hi : KnowsInner r inner target c)
    (h : PartFails inner form target c f) : f.OfReading r c := by
  obtain ⟨⟨t, d⟩, hmem, hread⟩ := h
  have hpart := isPart_of_mem_parts hmem
  rcases readElement_eq_error hread with ⟨-, -, rfl⟩ | ⟨-, hread⟩
  · exact .nullArgument _
  · exact ofReading_of_isPart (hi t d hpart.isInner f hread) hpart

/-- **Why a converter fails**, given why the readings within the cell do. -/
theorem ofReading_of_readBy {k : Converter} (hi : KnowsInner r inner target c)
    (h : readBy a inner k target c = .error f) : f.OfReading r c := by
  unfold readBy at h
  split at h
  · cases h
    exact .nullArgument _
  · split at h
    · cases h
      exact .typeMismatch _ _
    · rcases isOwn_or_of_readForm h with hown | hpart
      · exact ofReading_of_isOwn hown
      · exact ofReading_of_partFails hi hpart

end Reading

namespace Registry

variable {r : Registry} {a : Arena} {target : DeclType} {c : Cell} {f : Failure}

/-! ## The registry's reading -/

/-- A registry fails to read because it has no converter, or as the one that it has fails. -/
theorem failsAs_of_read (h : r.read a target c = .error f) : Reading.FailsAs r target c f := by
  -- readings within the cell have a smaller bound
  induction hn : Reading.bound target c using Nat.strongRecOn generalizing target c f with
  | ind n ih =>
    rw [read_eq] at h
    rcases bind_eq_error_iff.1 h with h | ⟨k, -, h⟩
    · exact Or.inl (resolveKind_error_iff.1 h)
    · right
      refine Reading.ofReading_of_readBy (fun t d hinner g hg => ?_) h
      exact ih _ (hn ▸ Reading.bound_lt_of_isInner hinner) hg rfl

/-- **Why a converter of the registry fails** on a cell. -/
theorem ofReading_of_readWith {k : Converter} (h : r.readWith a k target c = .error f) :
    f.OfReading r c :=
  Reading.ofReading_of_readBy (fun _ _ _ _ hg => failsAs_of_read hg) h

/-- Where a converter is found, the reading fails as the converter does. -/
theorem ofReading_of_read {k : Converter} (hk : r.reader? target c.kind = some k)
    (h : r.read a target c = .error f) : f.OfReading r c := by
  rcases failsAs_of_read h with ⟨hnone, -⟩ | h
  · rw [hk] at hnone
    cases hnone
  · exact h

end Registry

end CellMarshal
