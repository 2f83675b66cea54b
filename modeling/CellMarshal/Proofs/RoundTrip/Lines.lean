import CellMarshal.Proofs.RoundTrip.Grids

/-!
# Containers within containers, line by line

An element that is a container itself takes up one line of the grid: its own grid is flattened into
it (`WritesLine`), and it is read from the line alone. Elements that are written in lines one after
the other come out as these lines, and what was read right after an item was written is read in the
end (`exists_lines`). Reading puts together what comes back from the cells of one line
(`returns_of_cells`), and from the lines of a grid (`returns_of_lines`).

This is shown for arrays and lists (`OrderedType`), where order and repetitions are kept.
-/

namespace CellMarshal

namespace Registry

open Writing Reading

/-! ## Arrays and lists -/

/-- The types of ordered sequences, with the type of the elements and what these are made into. -/
inductive OrderedType : DeclType → DeclType → (List Value → Value) → Prop
  | array (e : DeclType) : OrderedType (.array e) e .array
  | list {t : DeclType} (h : t.raw? = some .list) : OrderedType t (Reading.elementType t) .list

namespace OrderedType

variable {o : Orientation} {t e : DeclType} {make : List Value → Value}

/-- The elements of an ordered sequence are read for their type. -/
theorem elementType_eq (ht : OrderedType t e make) : Reading.elementType t = e := by
  rcases ht <;> rfl

/-- The types of ordered sequences are container types. -/
theorem isContainer (ht : OrderedType t e make) : t.isContainer = true := by
  rcases ht with _ | h
  · rfl
  · rw [DeclType.isContainer, h]

/-- Ordered sequences are containers. -/
theorem isNested (ht : OrderedType t e make) (vs : List Value) : (make vs).isNested = true := by
  rcases ht <;> rfl

/-- Ordered sequences are equal where their elements are. -/
theorem same_eq (ht : OrderedType t e make) (vs ws : List Value) :
    (make vs).same (make ws) = Value.sameItems vs ws := by
  rcases ht <;> rw [Value.same]

/-- An ordered sequence is written element by element. -/
theorem write_eq (ht : OrderedType t e make) (vs : List Value) :
    (stock o).write t (make vs) = (do
      let cells ← (stock o).writeItems ((some e).filter fun e => !e.isOpen) vs
      pure (layOut o vs cells)) := by
  rw [← ht.elementType_eq, ← elementType_eq_filter]
  rcases ht with _ | h
  · exact write_array e vs
  · exact write_list h vs

/-- An ordered sequence is read element by element. -/
theorem read_eq (ht : OrderedType t e make) (d : Arena) (rows : List (List Cell)) :
    (stock o).read d t (.grid rows) = (readItems ((stock o).read d) t (.grid rows)).map make := by
  rcases ht with _ | h
  · exact read_array e rows
  · exact read_list h rows

/-- Elements that are no containers are read from the cells of a line. -/
theorem read_cells (ht : OrderedType t e make) (he : e.isContainer = false) (d : Arena)
    {line : List Cell} (hline : line ≠ [.missing]) :
    (stock o).read d t (.grid [line]) =
      (line.mapM (readElement ((stock o).read d) e)).map make := by
  have hfull : (Cell.grid [line]).isEmptyGrid = false :=
    Cell.isEmptyGrid_of_ne fun hm => hline (List.singleton_inj.1 hm)
  rw [← ht.elementType_eq] at he
  rw [ht.read_eq, readItems_of_cells he hfull, List.flatten_singleton, ht.elementType_eq]

/-- Elements that are containers are read from the lines of a grid. -/
theorem read_lines (ht : OrderedType t e make) (he : e.isContainer = true) (d : Arena)
    {rows : List (List Cell)} (hfull : rows ≠ [[.missing]]) :
    (stock o).read d t (.grid rows) =
      (rows.mapM fun row => (stock o).read d e (.grid [row])).map make := by
  rw [ht.read_eq]
  simp only [readItems, Cell.isEmptyGrid_of_ne hfull, ht.elementType_eq, he, Bool.false_eq_true,
    if_false, if_true]

end OrderedType

/-! ## Reading from lines -/

/-- Read from a cell, a value comes back. -/
def Returns (r : Registry) (d : Arena) (t : DeclType) (v : Value) (c : Cell) : Prop :=
  ∃ u, r.read d t c = .ok u ∧ v.same u = true

/-- Read from a cell of a grid, a value comes back. -/
def ReturnsElement (r : Registry) (d : Arena) (t : DeclType) (v : Value) (c : Cell) : Prop :=
  ∃ u, readElement (r.read d) t c = .ok u ∧ v.same u = true

variable {o o' : Orientation} {a b d : Arena} {t e : DeclType} {make : List Value → Value}
  {v : Value} {vs : List Value} {c : Cell} {line cells : List Cell} {rows : List (List Cell)}

/-- Where every value comes back from its item, equal values come back from all items together. -/
theorem exists_sameItems_of_mapM {α : Type} {f : α → Except Failure Value} {xs : List α}
    (h : List.Forall₂ (fun v x => ∃ u, f x = .ok u ∧ v.same u = true) vs xs) :
    ∃ us, xs.mapM f = .ok us ∧ Value.sameItems vs us = true := by
  induction h with
  | nil => exact ⟨[], rfl, rfl⟩
  | cons head _ ih =>
    obtain ⟨u, hu, hsame⟩ := head
    obtain ⟨us, hus, hsames⟩ := ih
    refine ⟨u :: us, ?_, ?_⟩
    · rw [List.mapM_cons, hu, hus]
      rfl
    · rw [Value.sameItems, hsame, hsames, Bool.and_self]

/-- The items of a sequence come back from the cells of a line. -/
theorem returns_of_cells (ht : OrderedType t e make) (he : e.isContainer = false)
    (hline : line ≠ [.missing])
    (h : List.Forall₂ (ReturnsElement (stock o) d e) vs line) :
    Returns (stock o) d t (make vs) (.grid [line]) := by
  obtain ⟨us, hus, hsame⟩ := exists_sameItems_of_mapM h
  refine ⟨make us, ?_, ?_⟩
  · rw [ht.read_cells he d hline, hus]
    rfl
  · rw [ht.same_eq, hsame]

/-- The elements of a sequence, containers themselves, come back from the lines of a grid. -/
theorem returns_of_lines (ht : OrderedType t e make) (he : e.isContainer = true)
    (hfull : rows ≠ [[.missing]])
    (h : List.Forall₂ (fun v row => Returns (stock o) d e v (.grid [row])) vs rows) :
    Returns (stock o) d t (make vs) (.grid rows) := by
  obtain ⟨us, hus, hsame⟩ := exists_sameItems_of_mapM h
  refine ⟨make us, ?_, ?_⟩
  · rw [ht.read_lines he d hfull, hus]
    rfl
  · rw [ht.same_eq, hsame]

/-- What comes back from a cell still does when the arena has grown. -/
theorem ReturnsElement.of_extends (hab : a.Extends b) (h : ReturnsElement (stock o) a e v c) :
    ReturnsElement (stock o) b e v c := by
  obtain ⟨u, hu, hsame⟩ := h
  exact ⟨u, refines_readElement (fun t c => refines_read hab t c) e c u hu, hsame⟩

/-- Items that are restored in order all come back in the end. -/
theorem RestoresAll.returns (ha : a.Consistent)
    (h : RestoresAll (stock o) (stock o') a (vs.map fun v => (e, v)) cells b) :
    List.Forall₂ (ReturnsElement (stock o') b e) vs cells := by
  induction vs generalizing a cells with
  | nil =>
    cases h
    exact .nil
  | cons v vs ih =>
    obtain ⟨c, mid, rest, rfl, head, tail⟩ := h.of_cons
    obtain ⟨-, hmid, -, u, hread, hsame⟩ := head.element ha
    obtain ⟨-, -, hgrown, -⟩ := RestoresAll.items hmid tail
    exact .cons (.of_extends hgrown ⟨u, hread, hsame⟩) (ih hmid tail)

/-! ## Writing in lines -/

/-- The line that the cells of a sequence take up within a grid. No cells take up one that is
missing. -/
def lineOf (cells : List Cell) : List Cell :=
  if cells.isEmpty then [.missing] else cells

/-- Cells take up the line of these cells, provided that there are any. -/
theorem lineOf_of_ne_nil (h : cells ≠ []) : lineOf cells = cells := by
  rw [lineOf, List.isEmpty_eq_false_iff.2 h]
  rfl

/-- As one row a vector is the line of its cells, in whatever orientation it lies. -/
theorem asRow_vector (o : Orientation) (cells : List Cell) :
    asRow (vector o cells) = lineOf cells := by
  by_cases hnil : cells = []
  · subst hnil
    rw [vector_nil]
    rfl
  · obtain ⟨rows, hrows, hflat⟩ := exists_rows_of_vector o hnil
    rw [hrows, asRow, hflat, lineOf_of_ne_nil hnil]

/-- A container is written in one line: where its parts, of the type `e`, are restored in order,
the container is written as a cell that takes up the line of their cells. -/
def WritesLine (w r : Registry) (t e : DeclType) (v : Value) (parts : List Value) : Prop :=
  ∀ a b cells, a.Consistent → RestoresAll w r a (parts.map fun x => (e, x)) cells b →
    ∃ c, (w.write t v).runOn a = (.ok c, b) ∧ asRow c = lineOf cells

/-- A sequence of items that are no containers is written in one line. -/
theorem OrderedType.writesLine (ht : OrderedType t e make)
    (hflat : ∀ v ∈ vs, v.isNested = false) :
    WritesLine (stock o) (stock o') t e (make vs) vs := by
  intro a b cells ha h
  obtain ⟨hwrites, -⟩ := RestoresAll.items ha h
  refine ⟨vector o cells, ?_, asRow_vector o cells⟩
  rw [ht.write_eq, runOn_bind_of_ok hwrites, runOn_pure, SequenceOf.layOut_eq_vector o hflat]

/-- Where the values of two lists are restored in order, those of the first are, and those of the
second are after them. -/
theorem RestoresAll.of_append {w r : Registry} {xs ys : List (DeclType × Value)}
    (h : RestoresAll w r a (xs ++ ys) cells b) :
    ∃ mid first rest, cells = first ++ rest ∧ RestoresAll w r a xs first mid ∧
      RestoresAll w r mid ys rest b := by
  induction xs generalizing a cells with
  | nil => exact ⟨a, [], cells, rfl, .nil a, h⟩
  | cons x xs ih =>
    obtain ⟨c, next, tail, rfl, hhead, htail⟩ := h.of_cons
    obtain ⟨mid, first, rest, rfl, hfirst, hrest⟩ := ih htail
    exact ⟨mid, c :: first, rest, rfl, .cons hhead hfirst, hrest⟩

/-- **Containers are written line by line.** Where all their parts are restored in order, each of
them is written as a cell that takes up the line of its own, and in the end the parts come back from
the cells of this line. -/
theorem exists_lines {parts : List (List Value)} (ha : a.Consistent)
    (hw : List.Forall₂ (WritesLine (stock o) (stock o') t e) vs parts) (hnull : ∀ v ∈ vs, v ≠ .null)
    (h : RestoresAll (stock o) (stock o') a (parts.flatten.map fun x => (e, x)) cells b) :
    ∃ written lines,
      ((stock o).writeItems ((some t).filter fun t => !t.isOpen) vs).runOn a = (.ok written, b) ∧
      written.map asRow = lines.map lineOf ∧ lines.flatten = cells ∧
      List.Forall₂ (List.Forall₂ (ReturnsElement (stock o') b e)) parts lines := by
  induction hw generalizing a cells with
  | nil =>
    cases h
    refine ⟨[], [], ?_, rfl, rfl, .nil⟩
    rw [writeItems_nil]
    rfl
  | @cons v part vs parts head _ ih =>
    rw [List.flatten_cons, List.map_append] at h
    obtain ⟨mid, line, rest, rfl, hpart, hparts⟩ := h.of_append
    obtain ⟨c, hwrite, hrow⟩ := head a mid line ha hpart
    obtain ⟨-, hmid, -⟩ := RestoresAll.items ha hpart
    obtain ⟨-, -, hgrown, -⟩ := RestoresAll.items hmid hparts
    obtain ⟨written, lines, hwrites, hrows, hflat, hreturns⟩ :=
      ih hmid (fun w hw => hnull w (List.mem_cons_of_mem _ hw)) hparts
    refine ⟨c :: written, line :: lines, ?_, ?_, ?_, .cons ?_ hreturns⟩
    · have hfirst := writeElement_eq_write (stock o) t (hnull v List.mem_cons_self)
      rw [writeItems_cons, hfirst, runOn_bind_of_ok hwrite, runOn_bind_of_ok hwrites, runOn_pure]
    · rw [List.map_cons, List.map_cons, hrow, hrows]
    · rw [List.flatten_cons, hflat]
    · exact (RestoresAll.returns ha hpart).imp fun _ _ hr => hr.of_extends hgrown

/-- A sequence of containers that are written line by line is written as the lines, filled up to a
common width. -/
theorem OrderedType.write_of_lines {parts : List (List Value)} {u : DeclType}
    (ht : OrderedType t u make) (ha : a.Consistent)
    (hw : List.Forall₂ (WritesLine (stock o) (stock o') u e) vs parts)
    (hne : vs ≠ []) (hnested : ∀ v ∈ vs, v.isNested = true)
    (h : RestoresAll (stock o) (stock o') a (parts.flatten.map fun x => (e, x)) cells b) :
    ∃ lines, ((stock o).write t (make vs)).runOn a = (.ok (Cell.padded (lines.map lineOf)), b) ∧
      lines.flatten = cells ∧
      List.Forall₂ (List.Forall₂ (ReturnsElement (stock o') b e)) parts lines := by
  have hany : vs.any Value.isNested = true := by
    obtain ⟨v, rest, rfl⟩ := List.exists_cons_of_ne_nil hne
    exact List.any_eq_true.2 ⟨v, List.mem_cons_self, hnested v List.mem_cons_self⟩
  obtain ⟨written, lines, hwrites, hrows, hflat, hreturns⟩ :=
    exists_lines ha hw (fun v hv => ne_null_of_isNested (hnested v hv)) h
  refine ⟨lines, ?_, hflat, hreturns⟩
  rw [ht.write_eq, runOn_bind_of_ok hwrites, runOn_pure, layOut, if_pos hany, hrows]

end Registry

end CellMarshal
