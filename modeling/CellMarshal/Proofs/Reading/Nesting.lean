import CellMarshal.Proofs.Reading.Parts
import CellMarshal.Proofs.Reading.Typed
import Mathlib.Logic.Function.Iterate
import Mathlib.Order.WellFounded

/-!
# How deep readings nest

A registry reads a cell one level at a time: the converter that it finds takes the cell apart, and
what the parts come to is left to a function that reads them (`Registry.readLevel`). The reading of
the registry is the one for which this function is the reading itself.

Which readings a level calls for is told from its results (`Registry.Calls`): the answer to a call
makes a difference, because a reading fails where one within it does. Every call is for a part of
the cell. It is for a cell of the grid, which is shallower, and for a type no larger; or it is for a
row of the grid, which may well be the whole grid again, but then for a smaller type. So the depth
of the cell and the size of the type together get smaller with each call, which bounds how many of
them nest. Main statements: `mem_parts_of_calls` and `calls_of_mem_parts` (which readings are called
for), `iterate_readLevel` and `calls_descend`.
-/

namespace CellMarshal

namespace Reading

variable {a : Arena} {f g inner : Inner} {form : ConverterForm} {target : DeclType} {c : Cell}
  {rows : List (List Cell)} {v : Value}

/-! ## What a level looks at -/

/-- The elements of a sequence are read from its parts. -/
theorem readItems_congr_parts (hempty : (Cell.grid rows).isEmptyGrid = false)
    (h : ∀ part ∈ itemParts target rows, readPart f part = readPart g part) :
    readItems f target (.grid rows) = readItems g target (.grid rows) := by
  rw [readItems_grid hempty, readItems_grid hempty, mapM_congr h]

/-- A row of objects is read from its cells. -/
theorem readRow_congr_parts {row : List Cell}
    (h : ∀ d ∈ row, readPart f (.object, d) = readPart g (.object, d)) :
    readRow f row = readRow g row := by
  have hcells : row.mapM (readElement f .object) = row.mapM (readElement g .object) := mapM_congr h
  rw [readRow, readRow, hcells]

/-- An open array is read from its cells, in one row or in several. -/
theorem readOpenArray_congr_parts
    (h : ∀ d ∈ rows.flatten, readPart f (.object, d) = readPart g (.object, d)) :
    readOpenArray f (.grid rows) = readOpenArray g (.grid rows) := by
  have hrow : ∀ row ∈ rows, readRow f row = readRow g row := fun row hrow =>
    readRow_congr_parts fun d hd => h d (List.mem_flatten.2 ⟨row, hrow, hd⟩)
  simp only [readOpenArray, readRow_congr_parts h, mapM_congr hrow]

/-- An entry is read from its key and its value. -/
theorem readEntry_congr_parts {row : List Cell}
    (h : ∀ part ∈ entryParts target row, readPart f part = readPart g part) :
    readEntry f (entryTypes target) row = readEntry g (entryTypes target) row := by
  unfold readEntry
  split
  · rename_i k v
    have hkey : readElement f (entryTypes target).1 k = readElement g (entryTypes target).1 k :=
      h _ List.mem_cons_self
    have hvalue : readElement f (entryTypes target).2 v = readElement g (entryTypes target).2 v :=
      h _ (List.mem_cons_of_mem _ List.mem_cons_self)
    rw [hkey, hvalue]
  · rfl

/-- **A form looks at nothing but the parts of the cell.** -/
theorem readForm_congr_parts
    (h : ∀ part ∈ parts form target c, readPart f part = readPart g part) :
    readForm a f form target c = readForm a g form target c := by
  cases c with
  | grid rows =>
    cases hempty : (Cell.grid rows).isEmptyGrid with
    | true =>
      rw [Cell.eq_emptyGrid_of_isEmptyGrid hempty]
      cases form <;> rfl
    | false =>
      cases form with
      | list | set =>
        rw [parts_grid_of_sequence (by simp) hempty] at h
        simp only [readForm, readItems_congr_parts hempty h]
      | array =>
        rw [parts_grid_of_array hempty] at h
        show readArray f target (.grid rows) = readArray g target (.grid rows)
        unfold readArray
        split
        · rename_i harray
          rw [if_pos harray] at h
          rw [readItems_congr_parts hempty h]
        · rename_i harray
          rw [if_neg harray] at h
          exact readOpenArray_congr_parts fun d hd => h _ (List.mem_map.2 ⟨d, hd, rfl⟩)
      | map =>
        show readMap f target (.grid rows) = readMap g target (.grid rows)
        by_cases hdims : (Cell.grid rows).dims.2 = 2
        · rw [parts_grid_of_map hempty hdims] at h
          have hrow : ∀ row ∈ rows,
              readEntry f (entryTypes target) row = readEntry g (entryTypes target) row :=
            fun row hrow => readEntry_congr_parts fun part hpart =>
              h part (List.mem_flatMap.2 ⟨row, hrow, hpart⟩)
          simp only [readMap, mapM_congr hrow]
        · simp only [readMap, ne_eq, hdims, not_false_eq_true, if_true]
      | _ => rfl
  | _ => cases form <;> rfl

/-! ## Where a level succeeds -/

/-- A sequence that is read has all of its parts read. -/
theorem readPart_of_readItems {items : List Value}
    (h : readItems inner target (.grid rows) = .ok items)
    (hempty : (Cell.grid rows).isEmptyGrid = false) {part : DeclType × Cell}
    (hpart : part ∈ itemParts target rows) : ∃ x, readPart inner part = .ok x := by
  rw [readItems_grid hempty, mapM_eq_ok_iff] at h
  obtain ⟨x, -, hx⟩ := exists_of_mem_left h hpart
  exact ⟨x, hx⟩

/-- A row that is read has all of its cells read. -/
theorem readPart_of_readRow {row : List Cell} (h : readRow inner row = .ok v) {d : Cell}
    (hd : d ∈ row) : ∃ x, readPart inner (.object, d) = .ok x := by
  obtain ⟨items, hitems, -⟩ := map_eq_ok_iff.1 h
  obtain ⟨x, -, hx⟩ := exists_of_mem_left (mapM_eq_ok_iff.1 hitems) hd
  exact ⟨x, hx⟩

/-- An open array that is read has all of its cells read. -/
theorem readPart_of_readOpenArray (h : readOpenArray inner (.grid rows) = .ok v)
    (hempty : (Cell.grid rows).isEmptyGrid = false) {d : Cell} (hd : d ∈ rows.flatten) :
    ∃ x, readPart inner (.object, d) = .ok x := by
  simp only [readOpenArray, hempty, Bool.false_eq_true, if_false] at h
  split at h
  · exact readPart_of_readRow h hd
  · obtain ⟨row, hrow, hd⟩ := List.mem_flatten.1 hd
    obtain ⟨items, hitems, -⟩ := map_eq_ok_iff.1 h
    obtain ⟨x, -, hx⟩ := exists_of_mem_left (mapM_eq_ok_iff.1 hitems) hrow
    exact readPart_of_readRow hx hd

/-- An entry that is read has its key and its value read. -/
theorem readPart_of_readEntry {row : List Cell} {entry : Value × Value}
    (h : readEntry inner (entryTypes target) row = .ok entry) {part : DeclType × Cell}
    (hpart : part ∈ entryParts target row) : ∃ x, readPart inner part = .ok x := by
  unfold readEntry at h
  split at h
  · obtain ⟨key, hkey, h⟩ := bind_eq_ok_iff.1 h
    obtain ⟨value, hvalue, -⟩ := bind_eq_ok_iff.1 h
    simp only [entryParts, List.mem_cons, List.not_mem_nil, or_false] at hpart
    rcases hpart with rfl | rfl
    · exact ⟨key, hkey⟩
    · exact ⟨value, hvalue⟩
  · cases h

/-- Where a form reads a cell, it reads all of its parts. -/
theorem readPart_of_readForm (h : readForm a inner form target c = .ok v) {part : DeclType × Cell}
    (hpart : part ∈ parts form target c) : ∃ x, readPart inner part = .ok x := by
  cases c with
  | grid rows =>
    cases hempty : (Cell.grid rows).isEmptyGrid with
    | true =>
      rw [parts_of_isEmptyGrid hempty] at hpart
      cases hpart
    | false =>
      cases form with
      | list | set =>
        rw [parts_grid_of_sequence (by simp) hempty] at hpart
        obtain ⟨items, hitems, -⟩ := map_eq_ok_iff.1 h
        exact readPart_of_readItems hitems hempty hpart
      | array =>
        rw [parts_grid_of_array hempty] at hpart
        have hread : readArray inner target (.grid rows) = .ok v := h
        unfold readArray at hread
        split at hread
        · rename_i harray
          rw [if_pos harray] at hpart
          obtain ⟨items, hitems, -⟩ := map_eq_ok_iff.1 hread
          exact readPart_of_readItems hitems hempty hpart
        · rename_i harray
          rw [if_neg harray] at hpart
          obtain ⟨d, hd, rfl⟩ := List.mem_map.1 hpart
          exact readPart_of_readOpenArray hread hempty hd
      | map =>
        by_cases hdims : (Cell.grid rows).dims.2 = 2
        · rw [parts_grid_of_map hempty hdims] at hpart
          obtain ⟨row, hrow, hpart⟩ := List.mem_flatMap.1 hpart
          have hread : readMap inner target (.grid rows) = .ok v := h
          simp only [readMap, hempty, hdims, Bool.false_eq_true, ne_eq, not_true_eq_false,
            if_false] at hread
          obtain ⟨entries, hentries, -⟩ := map_eq_ok_iff.1 hread
          obtain ⟨entry, -, hentry⟩ := exists_of_mem_left (mapM_eq_ok_iff.1 hentries) hrow
          exact readPart_of_readEntry hentry hpart
        · simp [parts, hdims] at hpart
      | _ => simp [parts] at hpart
  | _ => cases hpart

end Reading

/-! ## Calls -/

namespace Registry

open Reading

variable {r : Registry} {a : Arena} {p q : DeclType × Cell} {k : Converter}

/-- One level of a reading: the converter that the registry finds takes the cell apart, and `inner`
reads what it comes to. -/
def readLevel (r : Registry) (a : Arena) (inner : Inner) : Inner := fun target c =>
  (r.resolveKind target c.kind).bind fun k => readBy a inner k target c

/-- The reading for the type and the cell `p` calls for the one for `q`: two functions that differ
in what they read for `q` alone can make it come out differently. No call goes unseen, because a
reading fails as soon as one that it calls for does. -/
def Calls (r : Registry) (a : Arena) (p q : DeclType × Cell) : Prop :=
  ∃ f g : Inner, (∀ t d, (t, d) ≠ q → f t d = g t d) ∧
    r.readLevel a f p.1 p.2 ≠ r.readLevel a g p.1 p.2

/-- Where a converter is found, a level is what it does. -/
theorem readLevel_of_reader? {inner : Inner} (hk : r.reader? p.1 p.2.kind = some k) :
    r.readLevel a inner p.1 p.2 = readBy a inner k p.1 p.2 := by
  rw [readLevel, resolveKind_of_some hk]
  rfl

/-- The registry reads a cell level by level. -/
theorem readLevel_read (r : Registry) (a : Arena) : r.readLevel a (r.read a) = r.read a := by
  funext target c
  exact (read_eq r a target c).symm

/-- The answer for a missing cell is never looked at. -/
theorem readElement_congr_unless_missing {f g : Inner} {t : DeclType} {d : Cell}
    (h : (d.isMissing && !t.isCell) = true ∨ f t d = g t d) :
    readElement f t d = readElement g t d := by
  rcases h with h | h
  · simp only [readElement, h, if_true]
  · exact readElement_congr h

/-- **What is called for are parts**, those that are missing left out. -/
theorem mem_parts_of_calls (h : r.Calls a p q) :
    ∃ k, r.reader? p.1 p.2.kind = some k ∧ q ∈ parts k.form p.1 p.2 ∧
      (q.2.isMissing && !q.1.isCell) = false := by
  obtain ⟨f, g, hagree, hne⟩ := h
  cases hk : r.reader? p.1 p.2.kind with
  | none =>
    rw [readLevel, readLevel, resolveKind_of_none hk] at hne
    exact absurd rfl hne
  | some k =>
    refine ⟨k, rfl, ?_⟩
    -- were `q` not among the parts that are read, both functions would agree on all of these
    by_contra hq
    apply hne
    rw [readLevel_of_reader? hk, readLevel_of_reader? hk]
    have hform : readForm a f k.form p.1 p.2 = readForm a g k.form p.1 p.2 := by
      refine readForm_congr_parts fun part hpart => readElement_congr_unless_missing ?_
      by_cases heq : part = q
      · subst heq
        exact Or.inl (by simpa [hpart] using hq)
      · exact Or.inr (hagree _ _ heq)
    simp only [readBy, hform]

/-- **Every part is called for** that is not missing, where nothing else stands in the way. -/
theorem calls_of_mem_parts {v : Value} (hk : r.reader? p.1 p.2.kind = some k)
    (hread : readBy a (fun _ _ => .ok .null) k p.1 p.2 = .ok v) (hq : q ∈ parts k.form p.1 p.2)
    (hmissing : (q.2.isMissing && !q.1.isCell) = false) : r.Calls a p q := by
  classical
  -- all that is called for reads as nothing, and `q` alone may fail
  let failing : Inner := fun t d => if (t, d) = q then .error (.resolution "") else .ok .null
  refine ⟨fun _ _ => .ok .null, failing, fun t d hne => (if_neg hne).symm, fun heq => ?_⟩
  rw [readLevel_of_reader? hk, readLevel_of_reader? hk, hread] at heq
  obtain ⟨x, hx⟩ := readPart_of_readForm (readForm_of_readBy heq.symm) hq
  simp [readPart, readElement, hmissing, failing] at hx

/-! ## Nesting -/

/-- The bound on the nesting falls with each call. -/
theorem bound_lt_of_calls (h : r.Calls a p q) : bound q.1 q.2 < bound p.1 p.2 := by
  obtain ⟨k, -, hq, -⟩ := mem_parts_of_calls h
  exact bound_lt_of_isInner (isPart_of_mem_parts hq).isInner

/-- Calls that nest after one another are fewer than the bound of the first. -/
theorem length_lt_of_isChain {calls : List (DeclType × Cell)}
    (h : List.IsChain (r.Calls a) (p :: calls)) : calls.length < bound p.1 p.2 := by
  induction calls generalizing p with
  | nil => exact bound_pos p.1 p.2
  | cons q calls ih =>
    obtain ⟨hcall, hcalls⟩ := List.isChain_cons_cons.1 h
    have hlt := bound_lt_of_calls hcall
    have hrest := ih hcalls
    rw [List.length_cons]
    omega

/-- As many levels as readings can nest come to the reading itself, whatever is below them. -/
theorem iterate_readLevel (r : Registry) (a : Arena) (inner : Inner) {n : Nat} {target : DeclType}
    {c : Cell} (h : bound target c ≤ n) :
    (r.readLevel a)^[n] inner target c = r.read a target c := by
  induction n generalizing target c with
  | zero => exact absurd (bound_pos target c) (by omega)
  | succ n ih =>
    rw [Function.iterate_succ_apply', ← readLevel_read r a, readLevel, readLevel]
    congr 1
    funext k
    refine readBy_congr a k fun t d hinner => ?_
    have hlt := bound_lt_of_isInner hinner
    exact ih (by omega)

/-- **Readings are well founded.** Each call is for a cell of the grid, which is shallower, or for a
row of the grid as a grid of its own, which is no deeper and read as a container of a smaller type.
No calls go on for ever, and how many nest is bounded by the depth of the cell and the size of the
type; that many levels come to the reading of the registry, whatever is below them. -/
theorem calls_descend (r : Registry) (a : Arena) :
    (∀ p q, r.Calls a p q → ∃ rows row, p.2 = .grid rows ∧ row ∈ rows ∧
      ((q.2 ∈ row ∧ q.2.depth < p.2.depth ∧ q.1.size ≤ p.1.size) ∨
        (q.2 = .grid [row] ∧ q.2.depth ≤ p.2.depth ∧ q.1.isContainer = true ∧
          q.1.size < p.1.size))) ∧
    WellFounded (fun q p => r.Calls a p q) ∧
    (∀ p calls, List.IsChain (r.Calls a) (p :: calls) → calls.length < p.2.depth + p.1.size) ∧
    ∀ inner n target c, c.depth + target.size ≤ n →
      (r.readLevel a)^[n] inner target c = r.read a target c := by
  refine ⟨fun ⟨target, c⟩ ⟨t, d⟩ h => ?_, ?_, fun p calls h => length_lt_of_isChain h,
    fun inner n target c h => iterate_readLevel r a inner h⟩
  · obtain ⟨k, -, hq, -⟩ := mem_parts_of_calls h
    cases isPart_of_mem_parts hq with
    | cell hsize hrow hd =>
      exact ⟨_, _, rfl, hrow, Or.inl ⟨hd, Cell.depth_lt_of_mem_grid hd hrow, hsize⟩⟩
    | row hcontainer hsize hrow =>
      exact ⟨_, _, rfl, hrow, Or.inr ⟨rfl, Cell.depth_row_le hrow, hcontainer, hsize⟩⟩
  · exact (measure fun p : DeclType × Cell => bound p.1 p.2).wf.mono fun _ _ => bound_lt_of_calls

/-- A list of lists is read from a grid of one row, in whose only cell there is another grid: the
reading calls for one of the very same grid, now for a list, that one for the grid in the cell, and
this one for the text in it. -/
theorem calls_descend_rewrapped :
    let r := stock .column
    let list : DeclType := .generic .list [.object]
    let inside : Cell := .grid [[.text "eur"]]
    let calls : List (DeclType × Cell) :=
      [(list, .grid [[inside]]), (.object, inside), (.object, .text "eur")]
    let p : DeclType × Cell := (.generic .list [list], .grid [[inside]])
    List.IsChain (r.Calls {}) (p :: calls) ∧ calls.length < 5 ∧ list.size < p.1.size := by
  intro r list inside calls p
  have hrow : r.Calls {} p (list, .grid [[inside]]) :=
    calls_of_mem_parts (k := ⟨.list, .grid, 8⟩) (v := .list [.null]) rfl rfl (.head _) rfl
  have hcell : r.Calls {} (list, .grid [[inside]]) (.object, inside) :=
    calls_of_mem_parts (k := ⟨.list, .grid, 8⟩) (v := .list [.null]) rfl rfl (.head _) rfl
  have htext : r.Calls {} (.object, inside) (.object, .text "eur") :=
    calls_of_mem_parts (k := ⟨.array, .grid, 10⟩) (v := .array [.null]) rfl rfl (.head _) rfl
  have hchain : List.IsChain (r.Calls {}) (p :: calls) :=
    .cons_cons hrow (.cons_cons hcell (.cons_cons htext (.singleton _)))
  obtain ⟨hdescend, -, hlength, -⟩ := calls_descend r {}
  refine ⟨hchain, hlength p calls hchain, ?_⟩
  obtain ⟨rows, row, -, -, ⟨-, hdepth, -⟩ | ⟨-, -, -, hsize⟩⟩ := hdescend p _ hrow
  · exact absurd hdepth (Nat.lt_irrefl _)
  · exact hsize

end Registry

end CellMarshal
