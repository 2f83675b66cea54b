import CellMarshal.Registry.Draft
import CellMarshal.Registry.Read
import CellMarshal.Registry.Write

/-!
# Containers in the stock table

How the registry of the stock table writes and reads the containers: an array, a list, a set or a
map is written and read by the converter of its form, and a grid that lies in a slot for any object
is an array. A missing cell is read for references and for cells alone. The orientation matters for
writing and not for reading. Main statements: one equation of `write` and one of `read` for each
form, and `read_missing`.
-/

namespace CellMarshal

namespace Writing

/-- A result that is there can be used at once. -/
theorem ofResult_ok_bind {α β : Type} (x : α) (k : α → Writing β) :
    (ofResult (.ok x) >>= k) = k x := rfl

end Writing

namespace Registry

open Writing

variable {o : Orientation} {a : Arena} {t : DeclType}

/-! ## Writing -/

/-- A closed type is written by the converter that is found for it. -/
theorem write_of_writer? {r : Registry} {k : Converter} (ho : t.isOpen = false)
    (hk : r.writer? t none = some k) (v : Value) : r.write t v = r.writeWith k t v := by
  rw [write_of_closed r ho, resolveFor_of_some hk, ofResult_ok_bind]

/-- An array is written as its elements, laid out. -/
theorem write_array (e : DeclType) (items : List Value) :
    (stock o).write (.array e) (.array items) = (do
      let cells ← (stock o).writeItems (elementType (.array e)) items
      pure (layOut o items cells)) := by
  have hk : (stock o).writer? (.array e) none = some ⟨.array, .grid, 10⟩ := rfl
  rw [write_of_writer? rfl hk, writeWith_array _ _ _ items (Or.inr rfl)]
  rfl

/-- A list is written as its elements, laid out. -/
theorem write_list (ht : t.raw? = some .list) (items : List Value) :
    (stock o).write t (.list items) = (do
      let cells ← (stock o).writeItems (elementType t) items
      pure (layOut o items cells)) := by
  have hk : t.isOpen = false ∧ (stock o).writer? t none = some ⟨.list, .grid, 8⟩ := by
    cases t <;> cases ht <;> exact ⟨rfl, rfl⟩
  rw [write_of_writer? hk.1 hk.2, writeWith_list _ _ _ items (Or.inl rfl)]
  rfl

/-- A set is written as its elements, laid out as a column. -/
theorem write_set (ht : t.raw? = some .set) (items : List Value) :
    (stock o).write t (.set items) = (do
      let cells ← (stock o).writeItems (elementType t) items
      pure (layOut .column items cells)) := by
  have hk : t.isOpen = false ∧ (stock o).writer? t none = some ⟨.set, .grid, 7⟩ := by
    cases t <;> cases ht <;> exact ⟨rfl, rfl⟩
  rw [write_of_writer? hk.1 hk.2, writeWith_set _ _ _ items rfl]

/-- A map is written as its entries, laid out in two columns. -/
theorem write_map (ht : t.raw? = some .map) (entries : List (Value × Value)) :
    (stock o).write t (.map entries) = (do
      let rows ← (stock o).writeEntries (keyType t) (valueType t) entries
      pure (layOutRows rows)) := by
  have hk : t.isOpen = false ∧ (stock o).writer? t none = some ⟨.map, .grid, 6⟩ := by
    cases t <;> cases ht <;> exact ⟨rfl, rfl⟩
  rw [write_of_writer? hk.1 hk.2, writeWith_map _ _ _ entries rfl]

/-- No value becomes a missing cell, if it is written at all, and nothing is handed over. -/
theorem eq_missing_of_write_null {r : Registry} {b : Arena} {c : Cell}
    (h : (r.write t .null).runOn a = (.ok c, b)) : c = .missing ∧ b = a := by
  by_cases ho : t.isOpen = true
  · rw [write_of_open r ho, writeValue_null, runOn_pure] at h
    cases h
    exact ⟨rfl, rfl⟩
  · rw [Bool.not_eq_true] at ho
    rcases hk : r.writer? t none with _ | k
    · rw [write_of_closed r ho, resolveFor_of_none hk] at h
      cases h
    · rw [write_of_writer? ho hk, writeWith_null] at h
      split at h
      · cases h
        exact ⟨rfl, rfl⟩
      · cases h

/-- An element of a container is written as it would be on its own, no value apart. -/
theorem writeElement_eq_write (r : Registry) (e : DeclType) {v : Value} (hv : v ≠ .null) :
    r.writeElement ((some e).filter fun t => !t.isOpen) v = r.write e v := by
  rw [writeElement_of_ne_null r _ hv]
  by_cases ho : e.isOpen = true
  · obtain ⟨t, ht⟩ := Option.ne_none_iff_exists'.1 fun hn => hv (Value.type?_eq_none_iff.1 hn)
    rw [write_of_open r ho, writeValue_of_type r ht]
    simp only [typeFor, Option.filter_some, ho, ht, Bool.not_true, Bool.false_eq_true, if_false,
      Option.getD_none, Option.getD_some]
  · rw [Bool.not_eq_true] at ho
    rw [write_of_closed r ho]
    simp only [typeFor, Option.filter_some, ho, Bool.not_false, if_true, Option.getD_some]

/-! ## Reading -/

/-- A grid is read as an array of its elements. -/
theorem read_array (e : DeclType) (rows : List (List Cell)) :
    (stock o).read a (.array e) (.grid rows) =
      (Reading.readItems ((stock o).read a) (.array e) (.grid rows)).map .array := by
  have hk : (stock o).reader? (.array e) .grid = some ⟨.array, .grid, 10⟩ := rfl
  rw [read_of_reader? hk]
  rfl

/-- A grid is read as a list of its elements. -/
theorem read_list (ht : t.raw? = some .list) (rows : List (List Cell)) :
    (stock o).read a t (.grid rows) =
      (Reading.readItems ((stock o).read a) t (.grid rows)).map .list := by
  have hk : (stock o).reader? t .grid = some ⟨.list, .grid, 8⟩ := by
    cases t <;> cases ht <;> rfl
  rw [read_of_reader? hk]
  rfl

/-- A collection is read as a list. -/
theorem read_collection (ht : t.raw? = some .collection) (rows : List (List Cell)) :
    (stock o).read a t (.grid rows) =
      (Reading.readItems ((stock o).read a) t (.grid rows)).map .list := by
  have hk : (stock o).reader? t .grid = some ⟨.list, .grid, 8⟩ := by
    cases t <;> cases ht <;> rfl
  rw [read_of_reader? hk]
  rfl

/-- A grid is read as the set of its elements, repetitions dropped. -/
theorem read_set (ht : t.raw? = some .set) (rows : List (List Cell)) :
    (stock o).read a t (.grid rows) =
      (Reading.readItems ((stock o).read a) t (.grid rows)).map Value.setOf := by
  have hk : (stock o).reader? t .grid = some ⟨.set, .grid, 7⟩ := by
    cases t <;> cases ht <;> rfl
  rw [read_of_reader? hk]
  rfl

/-- A grid is read as a map of its rows. -/
theorem read_map (ht : t.raw? = some .map) (rows : List (List Cell)) :
    (stock o).read a t (.grid rows) =
      Reading.readMap ((stock o).read a) t (.grid rows) := by
  have hk : (stock o).reader? t .grid = some ⟨.map, .grid, 6⟩ := by
    cases t <;> cases ht <;> rfl
  rw [read_of_reader? hk]
  rfl

/-- Of the stock table only the converters that hand references or cells on read missing cells. -/
theorem form_of_reads_missing {k : Converter} (hk : k ∈ (stock o).ranked)
    (hr : k.reads .missing = true) : k.form = .handle ∨ k.form = .cell := by
  have htable : ∀ k ∈ stockTable, k.reads .missing = true → k.form = .handle ∨ k.form = .cell := by
    decide
  exact htable k (mem_rank.1 hk) hr

/-- A missing cell is no value for a reference, and for a cell it is the cell itself; for any other
type it cannot be read. -/
theorem read_missing {v : Value} (h : (stock o).read a t .missing = .ok v) :
    (t.isHandle = true ∧ v = .null) ∨ t.isCell = true := by
  rw [read_eq] at h
  rcases hk : (stock o).reader? t Cell.missing.kind with _ | k
  · rw [resolveKind_of_none hk] at h
    cases h
  · rw [resolveKind_of_some hk] at h
    obtain ⟨hmem, hreads, hp⟩ := of_reader?_eq_some hk
    rcases form_of_reads_missing hmem hreads with hf | hf
    · rw [Converter.produces_of_handle hf] at hp
      refine Or.inl ⟨hp, ?_⟩
      have hread : (stock o).readWith a k t .missing = .ok v := h
      simp only [readWith, Reading.readBy, Converter.toleratesNull, hf, hreads] at hread
      cases hread
      rfl
    · rw [Converter.produces_of_cell hf] at hp
      exact Or.inr hp

end Registry

end CellMarshal
