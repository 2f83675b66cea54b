import CellMarshal.Binding.Invoke
import CellMarshal.Proofs.Registry.Edits

/-!
# What writing ends in

A writing ends in a cell or in a failure. The cell is well shaped: each grid in it, at any depth and
within bags, has rows of one common length, with at least one row and one cell in each, provided
that this holds of the cells which the value brings along. None of the ways of building grids checks
this; it holds because a column, a row, rows that are filled up and the rows of a map are
rectangular whatever goes into them. A container without elements becomes the grid of one missing
cell. The failure is of one of three sorts, and none of them is about members or their overloads.

`Writing.Ends` says both of a writing, in the manner of a triple with a postcondition for either
end. It is closed under the ways in which writings are put together, so that one induction over
values carries it to `Registry.writeWith` and from there to every other writing. Main statements:
`ends_writeWith`, `ends_marshal`, `kind_of_writeWith` and `isShaped_of_encoded`.
-/

namespace CellMarshal

/-! ## Well-shaped cells and values -/

/-- Every grid in a cell, at any depth and within bags, is rectangular. -/
inductive Cell.IsShaped : Cell → Prop
  | grid {rows : List (List Cell)} (rectangular : IsRectangular rows)
      (cells : ∀ row ∈ rows, ∀ c ∈ row, IsShaped c) : IsShaped (grid rows)
  | bag {items : List Cell} (cells : ∀ c ∈ items, IsShaped c) : IsShaped (bag items)
  | single {c : Cell} (hgrid : c.kind ≠ .grid) (hbag : c.kind ≠ .bag) : IsShaped c

/-- Every cell that is part of a value is well shaped. What an object wraps is no part here, for it
is not written. -/
inductive Value.IsShaped : Value → Prop
  | cell {c : Cell} (h : c.IsShaped) : IsShaped (cell c)
  | container {v : Value} (nested : v.isNested = true) (parts : ∀ p ∈ v.parts, IsShaped p) :
      IsShaped v
  | single {v : Value} (nested : v.isNested = false) (hcell : ∀ c, v ≠ cell c) : IsShaped v

/-- A container without elements. -/
def Value.IsEmptyContainer (v : Value) : Prop :=
  v.isNested = true ∧ v.parts = []

namespace Cell

/-- A missing cell is well shaped. -/
theorem isShaped_missing : missing.IsShaped :=
  .single (by simp [kind]) (by simp [kind])

/-- The empty grid is well shaped. -/
theorem isShaped_emptyGrid : emptyGrid.IsShaped := by
  refine .grid ⟨1, Nat.one_pos, by simp, by simp⟩ ?_
  intro row hrow c hc
  rw [List.mem_singleton.1 hrow, List.mem_singleton] at hc
  rw [hc]
  exact isShaped_missing

/-- The cells of a grid that is well shaped are. -/
theorem IsShaped.of_mem_grid {rows : List (List Cell)} (h : (Cell.grid rows).IsShaped) {row : List Cell}
    (hrow : row ∈ rows) {c : Cell} (hc : c ∈ row) : c.IsShaped := by
  cases h with
  | grid _ cells => exact cells row hrow c hc
  | single hgrid _ => exact absurd rfl hgrid

/-- A column of well-shaped cells is well shaped. -/
theorem isShaped_column {cells : List Cell} (h : ∀ c ∈ cells, c.IsShaped) :
    (column cells).IsShaped := by
  cases cells with
  | nil => exact isShaped_emptyGrid
  | cons c cs =>
    obtain ⟨rows, hrows, hrect⟩ := isRectangular_column (c :: cs)
    rw [hrows]
    refine .grid hrect ?_
    rw [column_cons, grid.injEq] at hrows
    intro row hrow d hd
    rw [← hrows, ← List.map_cons (f := fun c => [c])] at hrow
    obtain ⟨e, he, rfl⟩ := List.mem_map.1 hrow
    rw [List.mem_singleton.1 hd]
    exact h e he

/-- A row of well-shaped cells is well shaped. -/
theorem isShaped_row {cells : List Cell} (h : ∀ c ∈ cells, c.IsShaped) : (row cells).IsShaped := by
  cases cells with
  | nil => exact isShaped_emptyGrid
  | cons c cs =>
    obtain ⟨rows, hrows, hrect⟩ := isRectangular_row (c :: cs)
    rw [hrows]
    refine .grid hrect ?_
    rw [row_cons, grid.injEq] at hrows
    intro r hr d hd
    rw [← hrows, List.mem_singleton] at hr
    exact h d (hr ▸ hd)

/-- Rows of well-shaped cells are well shaped when they are filled up. -/
theorem isShaped_padded {rows : List (List Cell)} (h : ∀ row ∈ rows, ∀ c ∈ row, c.IsShaped) :
    (padded rows).IsShaped := by
  by_cases hw : widest rows = 0
  · rw [padded_of_widest_eq_zero hw]
    exact isShaped_emptyGrid
  · obtain ⟨rows', hrows, hrect⟩ := isRectangular_padded rows
    rw [hrows]
    refine .grid hrect ?_
    rw [padded_of_widest_ne_zero hw, grid.injEq] at hrows
    intro row hrow c hc
    rw [← hrows] at hrow
    obtain ⟨r, hr, rfl⟩ := List.mem_map.1 hrow
    -- a cell of a row that was filled up is one of the row or a missing one
    rcases List.mem_append.1 hc with hc | hc
    · exact h r hr c hc
    · rw [List.eq_of_mem_replicate hc]
      exact isShaped_missing

end Cell

namespace Value

/-- A cell that is a well-shaped value is well shaped. -/
theorem IsShaped.of_cell {c : Cell} (h : (Value.cell c).IsShaped) : c.IsShaped := by
  cases h with
  | cell h => exact h
  | container nested _ => cases nested
  | single _ hcell => exact absurd rfl (hcell c)

/-- The parts of a container that is well shaped are. -/
theorem IsShaped.of_mem_parts {v p : Value} (h : v.IsShaped) (hv : v.isNested = true)
    (hp : p ∈ v.parts) : p.IsShaped := by
  cases h with
  | cell _ => cases hv
  | container _ parts => exact parts p hp
  | single nested _ =>
    rw [nested] at hv
    cases hv

end Value

/-- The sorts of failure that a writing can come to: there is no value where one is needed, a value
is of another type than the converter writes, or no converter writes the type. -/
inductive Failure.OfWriting : Failure → Prop
  | nullArgument (context : String) : OfWriting (.nullArgument context)
  | typeMismatch (expected found : String) : OfWriting (.typeMismatch expected found)
  | noConverter (type cell : String) : OfWriting (.noConverter type cell)

/-- The want of a converter for a type is a failure of writing. -/
theorem Registry.ofWriting_of_resolveFor {r : Registry} {type : DeclType}
    {hint : Option CellKind} {f : Failure} (h : r.resolveFor type hint = .error f) :
    f.OfWriting := by
  obtain ⟨-, rfl⟩ := resolveFor_error_iff.1 h
  exact .noConverter _ _

/-! ## Single values -/

namespace Scalar

/-- A conversion that gives cells of one kind and fails where the value is of another type. -/
def Gives (kind : CellKind) : Except Failure Cell → Prop
  | .ok c => c.kind = kind
  | .error f => ∃ expected found, f = .typeMismatch expected found

/-- Writing a number for a kind of cell that holds numbers gives this kind, or fails with a
mismatch. -/
theorem gives_writeNumeric {p : Primitive} {kind : CellKind}
    (hk : kind = .number ∨ kind = .integer) (v : Value) : Gives kind (writeNumeric p kind v) := by
  cases hx : v.asNumber? with
  | none =>
    simp only [writeNumeric, hx]
    exact ⟨_, _, rfl⟩
  | some x =>
    rcases hk with rfl | rfl
    · rw [writeNumeric_of_number hx (by simp)]
      rfl
    · rw [writeNumeric_of_integer hx]
      rfl

/-- Whatever kind is asked for, a number is written as a number or as a narrow integer. -/
theorem exists_gives_writeNumeric (p : Primitive) (kind : CellKind) (v : Value) :
    ∃ used, (used = .number ∨ used = .integer) ∧ Gives used (writeNumeric p kind v) := by
  by_cases hk : kind = .integer
  · exact ⟨kind, .inr hk, gives_writeNumeric (.inr hk) v⟩
  · have hnumber : writeNumeric p kind v = writeNumeric p .number v := by
      cases kind <;> first | rfl | exact absurd rfl hk
    exact ⟨.number, .inl rfl, hnumber ▸ gives_writeNumeric (.inl rfl) v⟩

/-- Writing a truth value gives one, or fails with a mismatch. -/
theorem gives_writeLogical (v : Value) : Gives .boolean (writeLogical v) := by
  unfold writeLogical
  split
  · rfl
  · exact ⟨_, _, rfl⟩

/-- Writing a truth value as a number gives a number, or fails with a mismatch. -/
theorem gives_writeLogicalNumeric (v : Value) : Gives .number (writeLogicalNumeric v) := by
  unfold writeLogicalNumeric
  split
  · rfl
  · exact ⟨_, _, rfl⟩

/-- Writing a text gives one, or fails with a mismatch. -/
theorem gives_writeText (v : Value) : Gives .text (writeText v) := by
  unfold writeText
  split
  · rfl
  · rfl
  · exact ⟨_, _, rfl⟩

/-- Writing a text as a number gives a number, or fails with a mismatch. -/
theorem gives_writeTextNumeric (v : Value) : Gives .number (writeTextNumeric v) := by
  unfold writeTextNumeric
  split
  · split
    · rfl
    · exact ⟨_, _, rfl⟩
  · exact ⟨_, _, rfl⟩

/-- Writing a character gives a text, or fails with a mismatch. -/
theorem gives_writeCharText (v : Value) : Gives .text (writeCharText v) := by
  unfold writeCharText
  split
  · rfl
  · exact ⟨_, _, rfl⟩

/-- Writing a date gives a number, or fails with a mismatch. -/
theorem gives_writeDate (v : Value) : Gives .number (writeDate v) := by
  unfold writeDate
  split
  · rfl
  · exact ⟨_, _, rfl⟩

/-- Writing a moment gives a number, or fails with a mismatch. -/
theorem gives_writeDateTime (v : Value) : Gives .number (writeDateTime v) := by
  unfold writeDateTime
  split
  · rfl
  · rfl
  · exact ⟨_, _, rfl⟩

end Scalar

namespace Writing

variable {α β : Type} {P : α → Prop} {F : Failure → Prop}

/-! ## Writings and their ends -/

/-- On every arena the writing comes to a result of which `P` holds, or to a failure of which `F`
does. -/
def Ends (w : Writing α) (P : α → Prop) (F : Failure → Prop) : Prop :=
  ∀ a, match (w.runOn a).1 with
    | .ok x => P x
    | .error f => F f

/-- A result that a writing comes to is one that it may end in. -/
theorem Ends.of_ok {w : Writing α} (hw : Ends w P F) {a b : Arena} {x : α}
    (h : w.runOn a = (.ok x, b)) : P x := by
  have ha := hw a
  rwa [h] at ha

/-- A result that does not concern the arena ends in what holds of it. -/
theorem Ends.ofResult {e : Except Failure α} (hok : ∀ x, e = .ok x → P x)
    (herror : ∀ f, e = .error f → F f) : Ends (ofResult e) P F := by
  intro a
  rw [runOn_ofResult]
  cases e with
  | ok x => exact hok x rfl
  | error f => exact herror f rfl

/-- To give a value ends in what holds of it. -/
theorem Ends.pure {x : α} (h : P x) : Ends (pure x) P F :=
  Ends.ofResult (e := .ok x) (fun y hy => by cases hy; exact h) fun f hf => by cases hf

/-- A failure ends in what holds of it. -/
theorem Ends.error {f : Failure} (h : F f) : Ends (Writing.ofResult (.error f)) P F :=
  Ends.ofResult (fun x hx => by cases hx) fun g hg => by cases hg; exact h

/-- Handing something over ends in what holds of the cell that is handed out. -/
theorem Ends.ofArena {P : Cell → Prop} {f : Arena → Cell × Arena} (h : ∀ a, P (f a).1) :
    Ends (ofArena f) P F := by
  intro a
  rw [runOn_ofArena]
  exact h a

/-- One writing after another: what holds of the first result is there for the second writing. -/
theorem Ends.bind {Q : β → Prop} {w : Writing α} {k : α → Writing β} (hw : Ends w P F)
    (hk : ∀ x, P x → Ends (k x) Q F) : Ends (w >>= k) Q F := by
  intro a
  have ha := hw a
  cases hr : (w.runOn a).1 with
  | ok x =>
    rw [hr] at ha
    rw [runOn_bind_of_ok (Prod.ext hr rfl)]
    exact hk x ha _
  | error f =>
    rw [hr] at ha
    rw [runOn_bind_of_error (Prod.ext hr rfl)]
    exact ha

/-- What is written by the converter that is found. -/
theorem Ends.resolveFor_bind {r : Registry} {type : DeclType} {hint : Option CellKind}
    {k : Converter → Writing α} (hk : ∀ c, Ends (k c) P Failure.OfWriting) :
    Ends (Writing.ofResult (r.resolveFor type hint) >>= k) P Failure.OfWriting := by
  have hlookup : Ends (Writing.ofResult (r.resolveFor type hint)) (fun _ => True)
      Failure.OfWriting :=
    Ends.ofResult (fun _ _ => trivial) fun _ => Registry.ofWriting_of_resolveFor
  exact hlookup.bind fun c _ => hk c

/-! ## Values that are not looked into -/

/-- What a value comes to when it is written: a cell that is well shaped where the value is, and the
grid of one missing cell where a container without elements becomes a grid. -/
structure Lays (v : Value) (c : Cell) : Prop where
  isShaped : v.IsShaped → c.IsShaped
  eq_emptyGrid : v.IsEmptyContainer → c.kind = .grid → c = .emptyGrid

/-- A cell that is neither a grid nor a bag is laid out well, whatever the value is. -/
theorem Lays.of_kind_ne {v : Value} {c : Cell} (hgrid : c.kind ≠ .grid) (hbag : c.kind ≠ .bag) :
    Lays v c :=
  ⟨fun _ => .single hgrid hbag, fun _ h => absurd h hgrid⟩

/-- A missing cell is laid out well, whatever the value is. -/
theorem lays_missing (v : Value) : Lays v .missing :=
  Lays.of_kind_ne (by simp [Cell.kind]) (by simp [Cell.kind])

/-- A reference is laid out well, whatever the value is. -/
theorem lays_reference (v : Value) (h : Handle) (tag : String) : Lays v (.reference h tag) :=
  Lays.of_kind_ne (by simp [Cell.kind]) (by simp [Cell.kind])

/-- A cell that is handed on comes from a value that is no container. -/
theorem lays_cell (c : Cell) : Lays (.cell c) c :=
  ⟨Value.IsShaped.of_cell, fun h => absurd h.1 (by simp [Value.isNested])⟩

/-- Handing a value over ends in a reference. -/
theorem ends_writeObject (v : Value) : Ends (writeObject v) (Lays v) F := by
  cases v with
  | object o => exact Ends.ofArena fun _ => lays_reference _ _ _
  | handle h t => exact Ends.pure (lays_reference _ _ _)
  | _ => exact Ends.ofArena fun _ => lays_reference _ _ _

/-- A conversion to single cells ends in one, or in a failure for the type of the value. -/
theorem ends_of_gives {kind : CellKind} {e : Except Failure Cell} (v : Value)
    (hgrid : kind ≠ .grid) (hbag : kind ≠ .bag) (h : Scalar.Gives kind e) :
    Ends (ofResult e) (Lays v) Failure.OfWriting := by
  refine Ends.ofResult ?_ ?_
  · rintro c rfl
    exact Lays.of_kind_ne (h ▸ hgrid) (h ▸ hbag)
  · rintro f rfl
    obtain ⟨expected, found, rfl⟩ := h
    exact .typeMismatch _ _

/-- A form that does not look into containers ends in a well-shaped cell, or in a failure of
writing. -/
theorem ends_writeWhole (form : ConverterForm) (kind : CellKind) (declared : DeclType) (v : Value) :
    Ends (writeWhole form kind declared v) (Lays v) Failure.OfWriting := by
  cases form with
  | numeric p =>
    obtain ⟨used, hused, hgives⟩ := Scalar.exists_gives_writeNumeric p kind v
    exact ends_of_gives v (by rcases hused with rfl | rfl <;> simp)
      (by rcases hused with rfl | rfl <;> simp) hgives
  | logical => exact ends_of_gives v (by simp) (by simp) (Scalar.gives_writeLogical v)
  | logicalNumeric => exact ends_of_gives v (by simp) (by simp) (Scalar.gives_writeLogicalNumeric v)
  | text => exact ends_of_gives v (by simp) (by simp) (Scalar.gives_writeText v)
  | textNumeric => exact ends_of_gives v (by simp) (by simp) (Scalar.gives_writeTextNumeric v)
  | charText => exact ends_of_gives v (by simp) (by simp) (Scalar.gives_writeCharText v)
  | date => exact ends_of_gives v (by simp) (by simp) (Scalar.gives_writeDate v)
  | dateTime => exact ends_of_gives v (by simp) (by simp) (Scalar.gives_writeDateTime v)
  | list => exact Ends.error (.typeMismatch _ _)
  | set => exact Ends.error (.typeMismatch _ _)
  | map => exact Ends.error (.typeMismatch _ _)
  | array => exact Ends.error (.typeMismatch _ _)
  | handle =>
    show Ends (ofResult (writeHandle v)) (Lays v) Failure.OfWriting
    unfold writeHandle
    split
    · exact Ends.pure (lays_reference _ _ _)
    · exact Ends.pure (lays_reference _ _ _)
    · exact Ends.error (.typeMismatch _ _)
  | cell =>
    show Ends (ofResult (writeCell v)) (Lays v) Failure.OfWriting
    unfold writeCell
    split
    · exact Ends.pure (lays_cell _)
    · exact Ends.error (.typeMismatch _ _)
  | objectHandle => exact ends_writeObject v

/-! ## Laying out -/

/-- The cells of a well-shaped cell, as one row, are well shaped. -/
theorem isShaped_asRow {c d : Cell} (h : c.IsShaped) (hd : d ∈ asRow c) : d.IsShaped := by
  cases c with
  | grid rows =>
    obtain ⟨row, hrow, hd⟩ := List.mem_flatten.1 hd
    exact h.of_mem_grid hrow hd
  | _ =>
    rw [List.mem_singleton.1 hd]
    exact h

/-- Laying well-shaped cells out gives a well-shaped cell. -/
theorem isShaped_layOut (orientation : Orientation) (items : List Value) {cells : List Cell}
    (h : ∀ c ∈ cells, c.IsShaped) : (layOut orientation items cells).IsShaped := by
  unfold layOut
  split
  · refine Cell.isShaped_padded fun row hrow d hd => ?_
    obtain ⟨c, hc, rfl⟩ := List.mem_map.1 hrow
    exact isShaped_asRow (h c hc) hd
  · cases orientation with
    | column => exact Cell.isShaped_column h
    | row => exact Cell.isShaped_row h

/-- No elements are laid out as the empty grid. -/
theorem layOut_nil (orientation : Orientation) : layOut orientation [] [] = .emptyGrid := by
  cases orientation <;> rfl

/-- The rows of a map are rectangular, for each has two cells. -/
theorem isShaped_layOutRows {rows : List (List Cell)} (hlength : ∀ row ∈ rows, row.length = 2)
    (h : ∀ row ∈ rows, ∀ c ∈ row, c.IsShaped) : (layOutRows rows).IsShaped := by
  unfold layOutRows
  split
  · exact Cell.isShaped_emptyGrid
  · rename_i hne
    refine .grid ⟨2, Nat.two_pos, ?_, hlength⟩ h
    rintro rfl
    exact hne rfl

end Writing

namespace Registry

open Writing

variable {r : Registry}

/-! ## Containers -/

/-- What holds of every writing of a value by a converter holds of writing it as an element. -/
theorem ends_writeElement {v : Value} (elem : Option DeclType)
    (hv : ∀ k declared, Ends (r.writeWith k declared v) (Lays v) Failure.OfWriting) :
    Ends (r.writeElement elem v) (Lays v) Failure.OfWriting := by
  by_cases hn : v = .null
  · subst hn
    rw [writeElement_null]
    exact Ends.pure (lays_missing _)
  · rw [writeElement_of_ne_null r elem hn]
    exact Ends.resolveFor_bind fun k => hv k _

/-- Elements are written one by one. -/
theorem ends_writeItems (items : List Value) (elem : Option DeclType)
    (hitems : ∀ v ∈ items, ∀ k declared,
      Ends (r.writeWith k declared v) (Lays v) Failure.OfWriting) :
    Ends (r.writeItems elem items)
      (fun cells => cells.length = items.length ∧
        ((∀ v ∈ items, v.IsShaped) → ∀ c ∈ cells, c.IsShaped)) Failure.OfWriting := by
  induction items with
  | nil =>
    rw [writeItems_nil]
    exact Ends.pure ⟨rfl, fun _ c hc => by cases hc⟩
  | cons v vs ih =>
    rw [writeItems_cons]
    refine (ends_writeElement elem (hitems v List.mem_cons_self)).bind fun c hc => ?_
    refine (ih fun u hu => hitems u (List.mem_cons_of_mem _ hu)).bind fun cs hcs => ?_
    refine Ends.pure ⟨by rw [List.length_cons, List.length_cons, hcs.1], fun hshaped d hd => ?_⟩
    rcases List.mem_cons.1 hd with rfl | hd
    · exact hc.isShaped (hshaped v List.mem_cons_self)
    · exact hcs.2 (fun u hu => hshaped u (List.mem_cons_of_mem _ hu)) d hd

/-- Entries are written one by one, each as a row of two cells. -/
theorem ends_writeEntries (entries : List (Value × Value)) (keys values : Option DeclType)
    (hentries : ∀ e ∈ entries, ∀ v ∈ [e.1, e.2], ∀ k declared,
      Ends (r.writeWith k declared v) (Lays v) Failure.OfWriting) :
    Ends (r.writeEntries keys values entries)
      (fun rows => rows.length = entries.length ∧ (∀ row ∈ rows, row.length = 2) ∧
        ((∀ e ∈ entries, ∀ v ∈ [e.1, e.2], v.IsShaped) →
          ∀ row ∈ rows, ∀ c ∈ row, c.IsShaped)) Failure.OfWriting := by
  induction entries with
  | nil =>
    rw [writeEntries_nil]
    refine Ends.pure ⟨rfl, ?_, ?_⟩
    · intro row hrow
      cases hrow
    · intro _ row hrow
      cases hrow
  | cons e es ih =>
    obtain ⟨x, y⟩ := e
    have hhead := hentries (x, y) List.mem_cons_self
    rw [writeEntries_cons]
    refine (ends_writeElement keys (hhead x (by simp))).bind fun c hc => ?_
    refine (ends_writeElement values (hhead y (by simp))).bind fun d hd => ?_
    refine (ih fun e he => hentries e (List.mem_cons_of_mem _ he)).bind fun rows hrows => ?_
    obtain ⟨hlength, htwo, hshaped⟩ := hrows
    refine Ends.pure ⟨by rw [List.length_cons, List.length_cons, hlength], ?_, ?_⟩
    · intro row hrow
      rcases List.mem_cons.1 hrow with rfl | hrow
      · rfl
      · exact htwo row hrow
    · intro hall row hrow cell hcell
      rcases List.mem_cons.1 hrow with rfl | hrow
      · have hxy := hall (x, y) List.mem_cons_self
        rcases List.mem_cons.1 hcell with rfl | hcell
        · exact hc.isShaped (hxy x (by simp))
        · rw [List.mem_singleton.1 hcell]
          exact hd.isShaped (hxy y (by simp))
      · exact hshaped (fun e he => hall e (List.mem_cons_of_mem _ he)) row hrow cell hcell

/-- The elements of a container, once they are written, are laid out as a well-shaped grid. -/
theorem ends_layOut {v : Value} {items : List Value} (orientation : Orientation)
    (elem : Option DeclType) (hv : v.isNested = true) (hparts : v.parts = items)
    (ih : ∀ p ∈ v.parts, ∀ k declared,
      Ends (r.writeWith k declared p) (Lays p) Failure.OfWriting) :
    Ends (do let cells ← r.writeItems elem items
             Pure.pure (layOut orientation items cells)) (Lays v) Failure.OfWriting := by
  subst hparts
  refine (ends_writeItems v.parts elem ih).bind fun cells hcells => ?_
  refine Ends.pure ⟨fun hs => ?_, fun hempty _ => ?_⟩
  · exact isShaped_layOut _ _ (hcells.2 fun p hp => hs.of_mem_parts hv hp)
  · have hnil : cells = [] := by
      apply List.eq_nil_of_length_eq_zero
      rw [hcells.1, hempty.2, List.length_nil]
    rw [hempty.2, hnil]
    exact layOut_nil _

/-! ## Every value -/

/-- **Writing by a converter** ends in a cell that is well shaped where the value is, or in a
failure of one of the three sorts. -/
theorem ends_writeWith (k : Converter) (declared : DeclType) (v : Value) :
    Ends (r.writeWith k declared v) (Lays v) Failure.OfWriting := by
  induction v using Value.induction generalizing k declared with
  | step v ih =>
    -- a container whose form looks into it is laid out, and any other value is taken as a whole
    cases v with
    | null =>
      rw [writeWith_null]
      split
      · exact Ends.pure (lays_missing _)
      · exact Ends.error (.nullArgument _)
    | list items =>
      rw [writeWith]
      split
      · exact ends_layOut _ _ rfl rfl ih
      · exact ends_writeWhole _ _ _ _
    | array items =>
      rw [writeWith]
      split
      · exact ends_layOut _ _ rfl rfl ih
      · exact ends_writeWhole _ _ _ _
    | set items =>
      rw [writeWith]
      split
      · exact ends_layOut _ _ rfl rfl ih
      · exact ends_writeWhole _ _ _ _
    | map entries =>
      rw [writeWith]
      split
      · refine (ends_writeEntries entries (keyType declared) (valueType declared)
          fun e he u hu => ih u (List.mem_flatMap.2 ⟨e, he, hu⟩)).bind fun rows hrows => ?_
        obtain ⟨hlength, htwo, hshaped⟩ := hrows
        refine Ends.pure ⟨fun hs => ?_, fun hempty _ => ?_⟩
        · refine isShaped_layOutRows htwo (hshaped fun e he u hu => ?_)
          exact hs.of_mem_parts rfl (List.mem_flatMap.2 ⟨e, he, hu⟩)
        · have hnil : entries = [] := by
            have hparts : (entries.flatMap fun e => [e.1, e.2]) = [] := hempty.2
            cases entries with
            | nil => rfl
            | cons e es => simp at hparts
          rw [hnil, List.length_nil] at hlength
          rw [List.eq_nil_of_length_eq_zero hlength]
          rfl
      · exact ends_writeWhole _ _ _ _
    | _ =>
      rw [writeWith_of_not_nested r k declared (by simp) rfl]
      exact ends_writeWhole _ _ _ _

/-- Writing a value by the type that it shows ends well. -/
theorem ends_writeValue (v : Value) : Ends (r.writeValue v) (Lays v) Failure.OfWriting := by
  cases ht : v.type? with
  | none =>
    rw [Value.type?_eq_none_iff.1 ht, writeValue_null]
    exact Ends.pure (lays_missing _)
  | some type =>
    rw [writeValue_of_type r ht]
    exact Ends.resolveFor_bind fun k => ends_writeWith k type v

/-- Writing a value for a declared type ends well. -/
theorem ends_write (declared : DeclType) (v : Value) :
    Ends (r.write declared v) (Lays v) Failure.OfWriting := by
  cases ho : declared.isOpen with
  | true =>
    rw [write_of_open r ho]
    exact ends_writeValue v
  | false =>
    rw [write_of_closed r ho]
    exact Ends.resolveFor_bind fun k => ends_writeWith k declared v

/-! ## The kind of the cell -/

/-- What is written by a conversion has the kind of the conversion. -/
theorem kind_of_gives {kind used : CellKind} {e : Except Failure Cell} (hk : (kind == used) = true)
    (h : Scalar.Gives used e) : Ends (ofResult e) (fun c => c.kind = kind) fun _ => True := by
  rw [eq_of_beq hk]
  refine Ends.ofResult ?_ fun _ _ => trivial
  rintro c rfl
  exact h

/-- What is handed over is written as a reference. -/
theorem kind_of_writeObject (v : Value) :
    Ends (writeObject v) (fun c => c.kind = .reference) fun _ => True := by
  cases v with
  | object o => exact Ends.ofArena fun _ => rfl
  | handle h t => exact Ends.pure rfl
  | _ => exact Ends.ofArena fun _ => rfl

/-- A form that does not hand cells on writes values as cells of the kind that it is used with. -/
theorem kind_of_writeWhole {form : ConverterForm} {kind : CellKind}
    (hs : form.supports kind = true) (hf : form ≠ .cell) (declared : DeclType) (v : Value) :
    Ends (writeWhole form kind declared v) (fun c => c.kind = kind) fun _ => True := by
  cases form with
  | numeric p =>
    simp only [ConverterForm.supports, Bool.and_eq_true, Bool.or_eq_true, beq_iff_eq] at hs
    exact kind_of_gives BEq.rfl (Scalar.gives_writeNumeric hs.2 v)
  | logical => exact kind_of_gives hs (Scalar.gives_writeLogical v)
  | logicalNumeric => exact kind_of_gives hs (Scalar.gives_writeLogicalNumeric v)
  | text => exact kind_of_gives hs (Scalar.gives_writeText v)
  | textNumeric => exact kind_of_gives hs (Scalar.gives_writeTextNumeric v)
  | charText => exact kind_of_gives hs (Scalar.gives_writeCharText v)
  | date => exact kind_of_gives hs (Scalar.gives_writeDate v)
  | dateTime => exact kind_of_gives hs (Scalar.gives_writeDateTime v)
  | list => exact Ends.error trivial
  | set => exact Ends.error trivial
  | map => exact Ends.error trivial
  | array => exact Ends.error trivial
  | handle =>
    have hkind : kind = .reference := eq_of_beq hs
    show Ends (ofResult (writeHandle v)) _ _
    unfold writeHandle
    split
    · exact Ends.pure hkind.symm
    · exact Ends.pure hkind.symm
    · exact Ends.error trivial
  | cell => exact absurd rfl hf
  | objectHandle =>
    have hkind : kind = .reference := eq_of_beq hs
    rw [hkind]
    exact kind_of_writeObject v

/-- Elements are laid out as a grid. -/
theorem kind_layOut (orientation : Orientation) (items : List Value) (cells : List Cell) :
    (layOut orientation items cells).kind = .grid := by
  have hgrid : ∃ rows, layOut orientation items cells = .grid rows := by
    unfold layOut
    split
    · obtain ⟨rows, hrows, -⟩ := Cell.isRectangular_padded (cells.map asRow)
      exact ⟨rows, hrows⟩
    · cases orientation with
      | column =>
        obtain ⟨rows, hrows, -⟩ := Cell.isRectangular_column cells
        exact ⟨rows, hrows⟩
      | row =>
        obtain ⟨rows, hrows, -⟩ := Cell.isRectangular_row cells
        exact ⟨rows, hrows⟩
  obtain ⟨rows, hrows⟩ := hgrid
  rw [hrows]
  rfl

/-- Entries are laid out as a grid. -/
theorem kind_layOutRows (rows : List (List Cell)) : (layOutRows rows).kind = .grid := by
  unfold layOutRows
  split <;> rfl

/-- **A converter writes cells of its own kind**, unless it hands cells on or there is no value. -/
theorem kind_of_writeWith {k : Converter} (hs : k.form.supports k.kind = true)
    (hf : k.form ≠ .cell) (declared : DeclType) {v : Value} (hv : v ≠ .null) :
    Ends (r.writeWith k declared v) (fun c => c.kind = k.kind) fun _ => True := by
  have hwhole := kind_of_writeWhole hs hf declared v
  have hany : ∀ {α : Type} (w : Writing α), Ends w (fun _ => True) fun _ => True := by
    intro α w a
    cases (w.runOn a).1 <;> trivial
  -- the forms that look into containers are used with grids alone
  have hsequence : (k.form = .list ∨ k.form = .array) → k.kind = .grid := by
    rintro (h | h) <;>
    · rw [h] at hs
      exact eq_of_beq hs
  cases v with
  | null => exact absurd rfl hv
  | list items =>
    rw [writeWith]
    split
    · rename_i h
      exact (hany _).bind fun cells _ => Ends.pure (by rw [kind_layOut, hsequence h])
    · exact hwhole
  | array items =>
    rw [writeWith]
    split
    · rename_i h
      exact (hany _).bind fun cells _ => Ends.pure (by rw [kind_layOut, hsequence h])
    · exact hwhole
  | set items =>
    rw [writeWith]
    split
    · rename_i h
      rw [h] at hs
      exact (hany _).bind fun cells _ => Ends.pure (by rw [kind_layOut, eq_of_beq hs])
    · exact hwhole
  | map entries =>
    rw [writeWith]
    split
    · rename_i h
      rw [h] at hs
      exact (hany _).bind fun rows _ => Ends.pure (by rw [kind_layOutRows, eq_of_beq hs])
    · exact hwhole
  | _ =>
    rw [writeWith_of_not_nested r k declared hv rfl]
    exact hwhole

end Registry

/-! ## Results of members -/

namespace Binding

open Writing

variable {σ : Type}

/-- **Turning a result into a cell** ends as the other writings do. -/
theorem ends_marshal (b : Binding σ) (v : Value) :
    Ends (b.marshal v) (Lays v) Failure.OfWriting := by
  unfold marshal
  split
  · exact Ends.pure (lays_missing _)
  · split
    · exact Registry.ends_writeWith _ _ v
    · exact Registry.ends_writeValue v
    · unfold passResult
      split
      · exact Ends.pure (lays_cell _)
      · exact ends_writeObject _
    · unfold boxResult
      split
      · exact Ends.pure (lays_reference _ _ _)
      · exact ends_writeObject _

end Binding

namespace Writing

/-- A cell that a registry makes of a value: by some converter, for a declared type, by the type
that the value shows, or as the result of a bound member whose body came to the value. -/
inductive Encoded (r : Registry) (v : Value) (c : Cell) : Prop
  | converter (k : Converter) (declared : DeclType) (a b : Arena)
      (h : (r.writeWith k declared v).runOn a = (.ok c, b)) : Encoded r v c
  | declared (type : DeclType) (a b : Arena) (h : (r.write type v).runOn a = (.ok c, b)) :
      Encoded r v c
  | shown (a b : Arena) (h : (r.writeValue v).runOn a = (.ok c, b)) : Encoded r v c
  | result {σ : Type} (bound : Binding σ) (hr : bound.registry = r) (args : List Cell)
      (host : Host σ) (receiver : Option Object) (values : List Value)
      (hbind : bound.bindCall host.arena args = .ok (receiver, values))
      (hbody : bound.settle ((bound.runBody receiver values).run host.world).1 = .ok v)
      (h : (bound.invoke args host).1 = .ok c) : Encoded r v c

/-- Whatever a registry makes of a value is laid out well. -/
theorem Encoded.lays {r : Registry} {v : Value} {c : Cell} (h : Encoded r v c) : Lays v c := by
  cases h with
  | converter k declared a b h => exact (Registry.ends_writeWith k declared v).of_ok h
  | declared type a b h => exact (Registry.ends_write type v).of_ok h
  | shown a b h => exact (Registry.ends_writeValue v).of_ok h
  | result bound hr args host receiver values hbind hbody h =>
    rw [Binding.invoke_of_value hbind hbody] at h
    have hends := bound.ends_marshal v host.arena
    cases hw : ((bound.marshal v).runOn host.arena).1 with
    | ok d =>
      rw [hw] at h hends
      cases h
      exact hends
    | error f =>
      rw [hw] at h
      cases h

/-- **What is written is well shaped**, in every registry that is reached by edits from no
converters or from the stock table. Let the cells that a value brings along be well shaped, and let
a cell be made of the value in any of the ways. Then each grid in the cell, at any depth, has at
least one row, and all its rows have one length, which is not zero; a container without elements
becomes the grid of one missing cell, if a grid at all. Moreover a converter of the registry that
does not hand cells on writes cells of no other kind than its own. -/
theorem isShaped_of_encoded (start : Registry.Draft) (hs : start = {} ∨ start = .ofStock)
    (edits : List Registry.Draft.Edit) (v : Value) (hv : v ≠ .null) (hshaped : v.IsShaped) :
    (∀ c, Encoded (start.editAll edits).build v c →
        c.IsShaped ∧ (v.IsEmptyContainer → c.kind = .grid → c = .emptyGrid)) ∧
      ∀ k ∈ (start.editAll edits).build.ranked, k.form ≠ .cell → ∀ declared a b c,
        ((start.editAll edits).build.writeWith k declared v).runOn a = (.ok c, b) →
          c.kind = k.kind := by
  constructor
  · intro c hc
    exact ⟨hc.lays.isShaped hshaped, hc.lays.eq_emptyGrid⟩
  · intro k hk hf declared a b c hr
    have hchecked := Registry.Draft.isChecked_of_start hs edits
    have hsupports := hchecked.supports k (Registry.Draft.mem_ranked_build.1 hk)
    exact (Registry.kind_of_writeWith hsupports hf declared hv).of_ok hr

/-- An array of an empty list, a map and no value: three rows of two cells. -/
theorem isShaped_of_encoded_jagged :
    let r := (Registry.Draft.ofStock.editAll [.remove .text .text]).build
    let v : Value := .array [.list [], .map [(.boolean true, .char 'x')], .null]
    let c : Cell := .grid [[.missing, .missing], [.boolean true, .text "x"], [.missing, .missing]]
    ((r.writeValue v).runOn {}).1 = .ok c ∧ c.IsShaped ∧
      ∀ k ∈ r.ranked, k.form = .array → ∀ b d,
        (r.writeWith k (.array .object) v).runOn {} = (.ok d, b) → d.kind = k.kind := by
  intro r v c
  have hv : v.IsShaped := by
    refine .container rfl fun p hp => ?_
    simp only [v, Value.parts, List.mem_cons, List.not_mem_nil, or_false] at hp
    rcases hp with rfl | rfl | rfl
    · exact .container rfl fun p hp => by cases hp
    · refine .container rfl fun p hp => ?_
      simp only [Value.parts, List.flatMap_cons, List.flatMap_nil, List.append_nil, List.mem_cons,
        List.not_mem_nil, or_false] at hp
      rcases hp with rfl | rfl <;> exact .single rfl (by simp)
    · exact .single rfl (by simp)
  obtain ⟨hshape, hkind⟩ := isShaped_of_encoded .ofStock (Or.inr rfl) [.remove .text .text] v
    (by simp [v]) hv
  refine ⟨rfl, (hshape c (.shown {} _ rfl)).1, fun k hk hf b d hd => ?_⟩
  exact hkind k hk (by simp [hf]) _ _ b d hd

end Writing

end CellMarshal
