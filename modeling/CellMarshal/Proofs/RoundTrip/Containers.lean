import CellMarshal.Proofs.Reading.Growth
import CellMarshal.Proofs.RoundTrip.Stock
import CellMarshal.Proofs.Value.Equality

/-!
# Containers come back as their items do

In the registry of the stock table, let items be written for their declared type one after the
other, each on the arena that the one before it left, and let each be read back to an equal value.
Then a container of them comes back too, an array, a list, a set or a map, in whatever orientation
it was written and is read. The one exception is a sequence whose only cell is missing: the grid of
one missing cell stands for no elements at all, and so the empty sequence comes back. A map has two
cells in each row and is not affected.

`Registry.Restores` says of one value that it comes back, and `Registry.RestoresAll` of some values
in order. Main statements: `RestoresAll.items`, `RestoresAll.entries` (elements and entries come
back) and `read_write_restored`.
-/

namespace CellMarshal

namespace Writing

/-! ## Vectors as grids -/

/-- A vector is a grid of its cells, in whatever orientation. -/
theorem exists_rows_of_vector (o : Orientation) {cells : List Cell} (hne : cells ≠ []) :
    ∃ rows, vector o cells = .grid rows ∧ rows.flatten = cells := by
  obtain ⟨c, cs, rfl⟩ := List.exists_cons_of_ne_nil hne
  cases o with
  | column =>
    refine ⟨_, Cell.column_cons c cs, ?_⟩
    show ((c :: cs).map fun d => [d]).flatten = c :: cs
    rw [← List.flatMap_def, List.flatMap_singleton']
  | row => exact ⟨_, Cell.row_cons c cs, by simp⟩

/-- A vector of no cells is the empty grid. -/
theorem vector_nil (o : Orientation) : vector o [] = .emptyGrid := by
  cases o <;> rfl

/-- A vector of one missing cell is the empty grid. -/
theorem vector_missing (o : Orientation) : vector o [.missing] = .emptyGrid := by
  cases o <;> rfl

/-- Other than that a vector is not the grid that stands for no elements. -/
theorem isEmptyGrid_vector {o : Orientation} {cells : List Cell}
    (h : (vector o cells).isEmptyGrid = true) : cells = [] ∨ cells = [.missing] := by
  by_cases hne : cells = []
  · exact Or.inl hne
  · obtain ⟨rows, hrows, hflat⟩ := exists_rows_of_vector o hne
    have hempty := Cell.eq_emptyGrid_of_isEmptyGrid h
    rw [hrows] at hempty
    cases hempty
    exact Or.inr hflat.symm

end Writing

namespace Reading

open Writing

variable {inner : Inner} {t : DeclType}

/-- The grid that stands for no elements is read as none. -/
theorem readItems_emptyGrid : readItems inner t .emptyGrid = .ok [] := rfl

/-- Elements that are no containers themselves are read from the cells of a grid in order. -/
theorem readItems_of_cells (ht : (elementType t).isContainer = false) {rows : List (List Cell)}
    (hne : (Cell.grid rows).isEmptyGrid = false) :
    readItems inner t (.grid rows) = rows.flatten.mapM (readElement inner (elementType t)) := by
  simp only [readItems, hne, ht, Bool.false_eq_true, if_false]

/-- A vector is read cell by cell, whichever way it lies. -/
theorem readItems_vector (o : Orientation) (ht : (elementType t).isContainer = false)
    {cells : List Cell} (hne : cells ≠ [.missing]) :
    readItems inner t (vector o cells) = cells.mapM (readElement inner (elementType t)) := by
  by_cases hnil : cells = []
  · rw [hnil, vector_nil]
    rfl
  · obtain ⟨rows, hrows, rfl⟩ := exists_rows_of_vector o hnil
    have hfull : (Cell.grid rows).isEmptyGrid = false := by
      rw [Bool.eq_false_iff, ← hrows]
      intro hempty
      rcases isEmptyGrid_vector hempty with h | h
      · exact hnil h
      · exact hne h
    rw [hrows, readItems_of_cells ht hfull]

end Reading

/-! ## What comes back -/

namespace Registry

open Writing Reading

/-- A value that is written for a declared type, and the cell that it becomes, from which it is read
back in the arena that the writing left. No value is a missing cell where the type admits it. -/
inductive Restores (w r : Registry) (a : Arena) (type : DeclType) : Value → Cell → Arena → Prop
  | null (hp : type.isPrimitive = false) (hc : type.isCell = false) :
      Restores w r a type .null .missing a
  | value {v u : Value} {c : Cell} {b : Arena} (hw : (w.write type v).runOn a = (.ok c, b))
      (hr : r.read b type c = .ok u) (hs : v.same u = true) : Restores w r a type v c b

/-- Values of declared types that are written in order, the cells that they become, and the arena
left in the end. -/
inductive RestoresAll (w r : Registry) :
    Arena → List (DeclType × Value) → List Cell → Arena → Prop
  | nil (a : Arena) : RestoresAll w r a [] [] a
  | cons {a b d : Arena} {type : DeclType} {v : Value} {c : Cell}
      {items : List (DeclType × Value)} {cells : List Cell} (head : Restores w r a type v c b)
      (tail : RestoresAll w r b items cells d) :
      RestoresAll w r a ((type, v) :: items) (c :: cells) d

/-- Where values are restored in order, the first one is, and the others are after it. -/
theorem RestoresAll.of_cons {w r : Registry} {a d : Arena} {type : DeclType} {v : Value}
    {items : List (DeclType × Value)} {cells : List Cell}
    (h : RestoresAll w r a ((type, v) :: items) cells d) :
    ∃ c b rest, cells = c :: rest ∧ Restores w r a type v c b ∧ RestoresAll w r b items rest d := by
  rcases h with _ | ⟨head, tail⟩
  exact ⟨_, _, _, rfl, head, tail⟩

/-- A type of references is not primitive. -/
theorem isPrimitive_of_isHandle {t : DeclType} (h : t.isHandle = true) : t.isPrimitive = false := by
  rw [DeclType.isHandle, DeclType.isOf, beq_iff_eq] at h
  rw [DeclType.isPrimitive, h]
  rfl

/-- An element is written and read back as it would be on its own, also where it is no value. -/
theorem Restores.element {o o' : Orientation} {a b : Arena} {type : DeclType} {v : Value} {c : Cell}
    (ha : a.Consistent) (h : Restores (stock o) (stock o') a type v c b) :
    ((stock o).writeElement ((some type).filter fun t => !t.isOpen) v).runOn a = (.ok c, b) ∧
      b.Consistent ∧ a.Extends b ∧
        ∃ u, readElement ((stock o').read b) type c = .ok u ∧ v.same u = true := by
  rcases h with ⟨hp, hc⟩ | ⟨hw, hr, hs⟩
  · refine ⟨rfl, ha, Arena.Extends.refl a, .null, ?_, rfl⟩
    simp [readElement, Cell.isMissing, hp, hc]
  · obtain ⟨hb, hab⟩ := extends_of_write ha hw
    refine ⟨?_, hb, hab, _, ?_, hs⟩
    · by_cases hv : v = .null
      · subst hv
        obtain ⟨rfl, rfl⟩ := eq_missing_of_write_null hw
        rfl
      · rw [writeElement_eq_write _ type hv]
        exact hw
    · by_cases hm : (c.isMissing && !type.isCell) = true
      · simp only [Bool.and_eq_true, Cell.isMissing_iff, Bool.not_eq_true'] at hm
        obtain ⟨rfl, hcell⟩ := hm
        rcases read_missing hr with ⟨hhandle, rfl⟩ | hcell'
        · have hprim : type.isPrimitive = false := isPrimitive_of_isHandle hhandle
          simp [readElement, Cell.isMissing, hcell, hprim]
        · rw [hcell'] at hcell
          cases hcell
      · rw [readElement, if_neg hm]
        exact hr

variable {o o' : Orientation} {a b : Arena}

/-- **Elements come back in order.** What was read right after each was written is read in the end,
for the arena has only grown. -/
theorem RestoresAll.items {e : DeclType} {vs : List Value} {cells : List Cell} (ha : a.Consistent)
    (h : RestoresAll (stock o) (stock o') a (vs.map fun v => (e, v)) cells b) :
    ((stock o).writeItems ((some e).filter fun t => !t.isOpen) vs).runOn a = (.ok cells, b) ∧
      b.Consistent ∧ a.Extends b ∧
        ∃ us, cells.mapM (readElement ((stock o').read b) e) = .ok us ∧
          Value.sameItems vs us = true := by
  induction vs generalizing a cells with
  | nil =>
    cases h
    rw [writeItems_nil]
    exact ⟨rfl, ha, Arena.Extends.refl _, [], rfl, rfl⟩
  | cons v vs ih =>
    obtain ⟨c, mid, rest, rfl, head, tail⟩ := h.of_cons
    obtain ⟨hwrite, hmid, hgrown, u, hread, hsame⟩ := head.element ha
    obtain ⟨hwrites, hb, hgrown', us, hreads, hsames⟩ := ih hmid tail
    refine ⟨?_, hb, hgrown.trans hgrown', u :: us, ?_, ?_⟩
    · rw [writeItems_cons, runOn_bind_of_ok hwrite, runOn_bind_of_ok hwrites, runOn_pure]
    · have hlate : readElement ((stock o').read b) e c = .ok u :=
        refines_readElement (fun t d => refines_read hgrown' t d) e c u hread
      rw [List.mapM_cons, hlate, hreads]
      rfl
    · rw [Value.sameItems, hsame, hsames, Bool.and_self]

/-- **Entries come back in order**, each in a row of its own. -/
theorem RestoresAll.entries {k v : DeclType} {entries : List (Value × Value)} {cells : List Cell}
    (ha : a.Consistent)
    (h : RestoresAll (stock o) (stock o') a (entries.flatMap fun x => [(k, x.1), (v, x.2)]) cells b) :
    ∃ rows, ((stock o).writeEntries ((some k).filter fun t => !t.isOpen)
        ((some v).filter fun t => !t.isOpen) entries).runOn a = (.ok rows, b) ∧
      (∀ row ∈ rows, row.length = 2) ∧ b.Consistent ∧ a.Extends b ∧
        ∃ us, rows.mapM (readEntry ((stock o').read b) (k, v)) = .ok us ∧
          Value.sameEntries entries us = true := by
  induction entries generalizing a cells with
  | nil =>
    cases h
    refine ⟨[], ?_, ?_, ha, Arena.Extends.refl _, [], rfl, rfl⟩
    · rw [writeEntries_nil, runOn_pure]
    · intro row hrow
      cases hrow
  | cons x entries ih =>
    obtain ⟨key, value⟩ := x
    obtain ⟨c, mid, cells, rfl, hkey, h⟩ := h.of_cons
    obtain ⟨d, mid', rest, rfl, hvalue, h⟩ := h.of_cons
    obtain ⟨hwkey, hmid, hgrown, key', hrkey, hskey⟩ := hkey.element ha
    obtain ⟨hwvalue, hmid', hgrown', value', hrvalue, hsvalue⟩ := hvalue.element hmid
    obtain ⟨rows, hwrites, hlength, hb, hgrown'', us, hreads, hsames⟩ := ih hmid' h
    refine ⟨[c, d] :: rows, ?_, ?_, hb, hgrown.trans (hgrown'.trans hgrown''),
      (key', value') :: us, ?_, ?_⟩
    · rw [writeEntries_cons, runOn_bind_of_ok hwkey, runOn_bind_of_ok hwvalue,
        runOn_bind_of_ok hwrites, runOn_pure]
    · intro row hrow
      rcases List.mem_cons.1 hrow with rfl | hrow
      · rfl
      · exact hlength row hrow
    · have hlatekey : readElement ((stock o').read b) k c = .ok key' :=
        refines_readElement (fun t d => refines_read (hgrown'.trans hgrown'') t d) k c key' hrkey
      have hlatevalue : readElement ((stock o').read b) v d = .ok value' :=
        refines_readElement (fun t d => refines_read hgrown'' t d) v d value' hrvalue
      rw [List.mapM_cons, hreads, readEntry, hlatekey, hlatevalue]
      rfl
    · rw [Value.sameEntries, hskey, hsvalue, hsames]
      rfl

/-! ## Containers -/

/-- The sequences of some elements: the declared type, and how the container is made. A set is one
of elements that differ from each other. -/
inductive SequenceOf (e : DeclType) (vs : List Value) : DeclType → (List Value → Value) → Prop
  | array : SequenceOf e vs (.array e) .array
  | list : SequenceOf e vs (.generic .list [e]) .list
  | set (h : Value.AllDifferent vs) : SequenceOf e vs (.generic .set [e]) .set

namespace SequenceOf

variable {e type : DeclType} {vs us : List Value} {make : List Value → Value} {cells : List Cell}

/-- The elements of such a sequence are read for their type, and written for it unless it is open.
-/
theorem elementType_eq (hs : SequenceOf e vs type make) :
    Writing.elementType type = ((some e).filter fun t => !t.isOpen) ∧
      Reading.elementType type = e := by
  rcases hs <;> exact ⟨rfl, rfl⟩

/-- A sequence is written element by element and laid out in some orientation. -/
theorem write_eq (hs : SequenceOf e vs type make) (o : Orientation) :
    ∃ way, (stock o).write type (make vs) = (do
      let cells ← (stock o).writeItems (Writing.elementType type) vs
      pure (layOut way vs cells)) := by
  rcases hs with _ | _ | hdiff
  · exact ⟨o, write_array e vs⟩
  · exact ⟨o, write_list rfl vs⟩
  · exact ⟨.column, write_set rfl vs⟩

/-- A grid is read element by element, and nothing is dropped from elements like the given ones. -/
theorem read_eq (hs : SequenceOf e vs type make) (hsame : Value.sameItems vs us = true)
    {c : Cell} (hc : c.kind = .grid) :
    (readItems ((stock o').read b) type c = .ok us →
        (stock o').read b type c = .ok (make us) ∧ (make vs).same (make us) = true) ∧
      (readItems ((stock o').read b) type c = .ok [] →
        (stock o').read b type c = .ok (make [])) := by
  rcases c with _ | _ | _ | _ | rows | _ | _ | _ | _
  case grid =>
    rcases hs with _ | _ | hdiff
    · rw [read_array]
      exact ⟨fun h => ⟨by rw [h]; rfl, hsame⟩, fun h => by rw [h]; rfl⟩
    · rw [read_list rfl]
      exact ⟨fun h => ⟨by rw [h]; rfl, hsame⟩, fun h => by rw [h]; rfl⟩
    · have hdistinct : Value.setOf us = .set us := by
        rw [Value.setOf, Value.distinct_of_allDifferent (hdiff.of_sameItems hsame)]
      rw [read_set rfl]
      refine ⟨fun h => ⟨?_, hsame⟩, fun h => by rw [h]; rfl⟩
      rw [h, ← hdistinct]
      rfl
  all_goals cases hc

/-- Elements that are no containers are laid out as a vector. -/
theorem layOut_eq_vector (way : Orientation) (hn : ∀ v ∈ vs, v.isNested = false)
    (cells : List Cell) : layOut way vs cells = vector way cells := by
  have hany : vs.any Value.isNested = false := by
    rw [List.any_eq_false]
    intro v hv
    rw [hn v hv]
    exact Bool.false_ne_true
  rw [layOut, hany]
  rfl

/-- A vector is a grid. -/
theorem kind_vector (way : Orientation) (cells : List Cell) : (vector way cells).kind = .grid := by
  by_cases hnil : cells = []
  · rw [hnil, vector_nil]
    rfl
  · obtain ⟨rows, hrows, -⟩ := exists_rows_of_vector way hnil
    rw [hrows]
    rfl

/-- **A sequence comes back as its elements do**, or with no elements where its only cell is
missing.
-/
theorem restores (hs : SequenceOf e vs type make) (he : e.isContainer = false)
    (hn : ∀ v ∈ vs, v.isNested = false) (ha : a.Consistent)
    (h : RestoresAll (stock o) (stock o') a (vs.map fun v => (e, v)) cells b) :
    ∃ c, ((stock o).write type (make vs)).runOn a = (.ok c, b) ∧
      (cells = [.missing] → (stock o').read b type c = .ok (make [])) ∧
      (cells ≠ [.missing] → ∃ us, (stock o').read b type c = .ok (make us) ∧
        (make vs).same (make us) = true) := by
  obtain ⟨hwrites, -, -, us, hreads, hsame⟩ := RestoresAll.items ha h
  obtain ⟨way, hwrite⟩ := hs.write_eq o
  obtain ⟨hfor, hof⟩ := hs.elementType_eq
  rw [← hfor] at hwrites
  rw [← hof] at he hreads
  have hback : (readItems ((stock o').read b) type (vector way cells) = .ok us →
        (stock o').read b type (vector way cells) = .ok (make us) ∧
          (make vs).same (make us) = true) ∧
      (readItems ((stock o').read b) type (vector way cells) = .ok [] →
        (stock o').read b type (vector way cells) = .ok (make [])) :=
    hs.read_eq hsame (kind_vector way cells)
  obtain ⟨hfull, hempty⟩ := hback
  refine ⟨vector way cells, ?_, fun hcells => ?_, fun hcells => ⟨us, ?_⟩⟩
  · rw [hwrite, runOn_bind_of_ok hwrites, runOn_pure, layOut_eq_vector way hn]
  · apply hempty
    rw [hcells, vector_missing]
    exact readItems_emptyGrid
  · apply hfull
    rw [readItems_vector way he hcells]
    exact hreads

end SequenceOf

/-- **A map comes back as its entries do**, without exception. -/
theorem RestoresAll.map {k v : DeclType} {entries : List (Value × Value)} {cells : List Cell}
    (ha : a.Consistent)
    (h : RestoresAll (stock o) (stock o') a (entries.flatMap fun x => [(k, x.1), (v, x.2)]) cells b) :
    ∃ c us, ((stock o).write (.generic .map [k, v]) (.map entries)).runOn a = (.ok c, b) ∧
      (stock o').read b (.generic .map [k, v]) c = .ok (.map us) ∧
        (Value.map entries).same (.map us) = true := by
  obtain ⟨rows, hwrites, hlength, -, -, us, hreads, hsame⟩ := RestoresAll.entries ha h
  refine ⟨layOutRows rows, us, ?_, ?_, hsame⟩
  · have hw : ((stock o).writeEntries (keyType (.generic .map [k, v]))
        (valueType (.generic .map [k, v])) entries).runOn a = (.ok rows, b) := hwrites
    rw [write_map rfl, runOn_bind_of_ok hw, runOn_pure]
  · rcases rows with _ | ⟨row, rows⟩
    · cases hreads
      rfl
    · have htwo : row.length = 2 := hlength row List.mem_cons_self
      have hgrid : layOutRows (row :: rows) = .grid (row :: rows) := rfl
      have hdims : (Cell.grid (row :: rows)).dims.2 = 2 := htwo
      have hfull : (Cell.grid (row :: rows)).isEmptyGrid = false := by
        rw [Bool.eq_false_iff]
        intro hempty
        cases Cell.eq_emptyGrid_of_isEmptyGrid hempty
        cases htwo
      rw [hgrid, read_map rfl]
      simp only [readMap, hfull, hdims, Bool.false_eq_true, if_false, ne_eq, not_true_eq_false]
      rw [show entryTypes (.generic .map [k, v]) = (k, v) from rfl, hreads]
      rfl

/-- **Containers are restored as their items are.** Let items be written in order on a consistent
arena, each for its declared type, and each read back to an equal value, or be no value where the
type admits a missing cell. Then every array, list or set of them, elements that are no containers
of a type that is none, is written to a cell and read back, in whatever orientation either is done,
to an equal container, unless its one cell is missing, in which case it is read as empty. And every
map of them, where keys and values may be containers, is read back to an equal map, with its entries
in the same order. -/
theorem read_write_restored (o o' : Orientation) (a b : Arena) (ha : a.Consistent) :
    (∀ (e : DeclType) (vs : List Value) (cells : List Cell), e.isContainer = false →
      (∀ v ∈ vs, v.isNested = false) →
      RestoresAll (stock o) (stock o') a (vs.map fun v => (e, v)) cells b →
      ∀ type make, SequenceOf e vs type make →
        ∃ c, ((stock o).write type (make vs)).runOn a = (.ok c, b) ∧
          (cells = [.missing] → (stock o').read b type c = .ok (make [])) ∧
          (cells ≠ [.missing] → ∃ us, (stock o').read b type c = .ok (make us) ∧
            (make vs).same (make us) = true)) ∧
      ∀ (k v : DeclType) (entries : List (Value × Value)) (cells : List Cell),
        RestoresAll (stock o) (stock o') a
          (entries.flatMap fun x => [(k, x.1), (v, x.2)]) cells b →
        ∃ c us, ((stock o).write (.generic .map [k, v]) (.map entries)).runOn a = (.ok c, b) ∧
          (stock o').read b (.generic .map [k, v]) c = .ok (.map us) ∧
            (Value.map entries).same (.map us) = true := by
  constructor
  · intro e vs cells he hn h type make hs
    exact hs.restores he hn ha h
  · intro k v entries cells h
    exact h.map ha

/-- An object and no value as a set, no value alone as a list, and a map from texts to arrays. -/
theorem read_write_restored_curve :
    let curve : Object := { identity := .made 7, classId := { name := "Curve" }, content := none }
    let named : DeclType := .plain (.named "Curve")
    let flags : DeclType := .array (.plain (.primitive .boolean))
    let a : Arena := {}
    let b : Arena := (a.put curve).2
    (∃ c us, ((stock .row).write (.generic .set [named]) (.set [.object curve, .null])).runOn a =
        (.ok c, b) ∧ (stock .column).read b (.generic .set [named]) c = .ok (.set us) ∧
        (Value.set [.object curve, .null]).same (.set us) = true) ∧
      (∃ c, ((stock .row).write (.generic .list [named]) (.list [.null])).runOn a = (.ok c, a) ∧
        (stock .column).read a (.generic .list [named]) c = .ok (.list [])) ∧
      ∃ c us, ((stock .row).write (.generic .map [.plain .string, flags])
          (.map [(.string "usd", .array [.boolean true, .boolean false])])).runOn a = (.ok c, a) ∧
        (stock .column).read a (.generic .map [.plain .string, flags]) c = .ok (.map us) := by
  intro curve named flags a b
  have ha : a.Consistent := Arena.consistent_empty .keep
  have hnull : ∀ d, RestoresAll (stock .row) (stock .column) d [(named, .null)] [.missing] d :=
    fun d => .cons (.null rfl rfl) (.nil d)
  refine ⟨?_, ?_, ?_⟩
  · have hset : RestoresAll (stock .row) (stock .column) a [(named, .object curve), (named, .null)]
        [.reference 1 "Curve", .missing] b := .cons (.value rfl rfl rfl) (hnull b)
    obtain ⟨c, hw, -, hr⟩ := (read_write_restored .row .column a b ha).1 named
      [.object curve, .null] _ rfl (by simp [Value.isNested]) hset _ _
      (.set (List.pairwise_pair.2 rfl))
    obtain ⟨us, hread, hsame⟩ := hr (by simp)
    exact ⟨c, us, hw, hread, hsame⟩
  · obtain ⟨c, hw, hr, -⟩ := (read_write_restored .row .column a a ha).1 named [.null] _ rfl
      (by simp [Value.isNested]) (hnull a) _ _ .list
    exact ⟨c, hw, hr rfl⟩
  · have hmap : RestoresAll (stock .row) (stock .column) a
        [(.plain .string, .string "usd"), (flags, .array [.boolean true, .boolean false])]
        [.text "usd", .grid [[.boolean true, .boolean false]]] a :=
      .cons (.value rfl rfl rfl) (.cons (.value rfl rfl rfl) (.nil a))
    obtain ⟨c, us, hw, hr, -⟩ := (read_write_restored .row .column a a ha).2 (.plain .string) flags
      [(.string "usd", .array [.boolean true, .boolean false])] _ hmap
    exact ⟨c, us, hw, hr⟩

end Registry

end CellMarshal
