import CellMarshal.Proofs.RoundTrip.Lines

/-!
# Sequences of sequences

An array or a list of arrays or lists is written as a grid with one row for each inner sequence. The
rows are filled up to the longest of them with missing cells, which are read as no value: where the
type of the items admits this, every inner sequence comes back with what was filled up at its end,
and where it is primitive a sequence that is shorter than another one makes the grid unreadable. An
empty inner sequence is no exception, for it is filled up from the start. Main statement:
`read_write_nested`.
-/

namespace CellMarshal

/-! ## One failure -/

/-- A traversal in which all items that fail do so in one way fails in this way. -/
theorem mapM_eq_error_of_unique {ε α β : Type} {f : α → Except ε β} {xs : List α} {c : ε} {x : α}
    (hx : x ∈ xs) (hf : f x = .error c) (h : ∀ y ∈ xs, ∀ d, f y = .error d → d = c) :
    xs.mapM f = .error c := by
  obtain ⟨before, after, rfl⟩ := List.append_of_mem hx
  obtain ⟨d, hd, hcause⟩ := exists_mapM_append_eq_error hf before after
  rw [hd]
  rcases hcause with rfl | ⟨y, hy, hyd⟩
  · rfl
  · rw [h y (List.mem_append_left _ hy) d hyd]

namespace Registry

open Writing Reading

variable {o o' : Orientation} {a b d : Arena} {t u e : DeclType} {outer inner : List Value → Value}
  {row : List Value} {rows : List (List Value)} {line cells : List Cell} {lines : List (List Cell)}
  {width : Nat}

/-! ## Lines of one width -/

/-- Filled up to some width, no cells give the same line as the missing cell that stands for them.
-/
theorem padRow_lineOf (hpos : 0 < width) (line : List Cell) :
    Cell.padRow width (lineOf line) = Cell.padRow width line := by
  by_cases hnil : line = []
  · obtain ⟨n, rfl⟩ := Nat.exists_eq_succ_of_ne_zero (Nat.ne_of_gt hpos)
    rw [hnil]
    rfl
  · rw [lineOf_of_ne_nil hnil]

/-- A line that has the width already is not filled up. -/
theorem padRow_of_length_eq (h : line.length = width) : Cell.padRow width line = line := by
  rw [Cell.padRow, h, Nat.sub_self, List.replicate_zero, List.append_nil]

/-- Lines are filled up to the longest of them. -/
theorem padded_lines (hpos : 0 < width) (hle : ∀ line ∈ lines, line.length ≤ width)
    (hlongest : ∃ line ∈ lines, line.length = width) :
    Cell.padded (lines.map lineOf) = .grid (lines.map (Cell.padRow width)) := by
  have hlength : ∀ line : List Cell, line.length ≤ width → (lineOf line).length ≤ width := by
    intro line hline
    by_cases hnil : line = []
    · rw [hnil]
      exact hpos
    · rw [lineOf_of_ne_nil hnil]
      exact hline
  have hwidest : Cell.widest (lines.map lineOf) = width := by
    apply Nat.le_antisymm
    · apply Cell.widest_le
      intro row hrow
      obtain ⟨line, hline, rfl⟩ := List.mem_map.1 hrow
      exact hlength line (hle line hline)
    · obtain ⟨line, hline, hwidth⟩ := hlongest
      have hne : line ≠ [] := List.ne_nil_of_length_pos (by omega)
      have hmem : line ∈ lines.map lineOf :=
        List.mem_map.2 ⟨line, hline, lineOf_of_ne_nil hne⟩
      rw [← hwidth]
      exact Cell.length_le_widest hmem
  rw [Cell.padded_of_widest_ne_zero (by omega), hwidest, List.map_map]
  exact congrArg Cell.grid (List.map_congr_left fun line _ => padRow_lineOf hpos line)

/-! ## Reading a row -/

/-- A line of two cells or more is not a single missing cell. -/
theorem ne_missing_of_two_le (h : 2 ≤ line.length) : line ≠ [.missing] := by
  rintro rfl
  exact absurd h (by decide)

/-- A missing cell comes back as no value, where the type admits it. -/
theorem returnsElement_null (hp : e.isPrimitive = false) (hc : e.isCell = false) :
    ReturnsElement (stock o) d e .null .missing := by
  refine ⟨.null, ?_, rfl⟩
  rw [readElement_missing hc, hp]
  rfl

/-- Related items stay related, item by item, when they are repeated. -/
theorem forall₂_replicate {α β : Type} {R : α → β → Prop} {x : α} {y : β} (h : R x y) (n : Nat) :
    List.Forall₂ R (List.replicate n x) (List.replicate n y) := by
  induction n with
  | zero => exact .nil
  | succ n ih => exact .cons h ih

/-- A row that is filled up comes back as the sequence with no values at its end. -/
theorem returns_padRow (hu : OrderedType u e inner) (he : e.isContainer = false)
    (hc : e.isCell = false) (hp : e.isPrimitive = false) (hwidth : 2 ≤ width)
    (hle : line.length ≤ width) (h : List.Forall₂ (ReturnsElement (stock o) d e) row line) :
    Returns (stock o) d u (inner (row ++ List.replicate (width - row.length) .null))
      (.grid [Cell.padRow width line]) := by
  have hlong : 2 ≤ (Cell.padRow width line).length := by
    rw [Cell.length_padRow hle]
    exact hwidth
  apply returns_of_cells hu he (ne_missing_of_two_le hlong)
  rw [Cell.padRow, ← h.length_eq]
  exact List.rel_append h (forall₂_replicate (returnsElement_null hp hc) _)

/-- A row of the full width comes back as it was. -/
theorem returns_fullRow (hu : OrderedType u e inner) (he : e.isContainer = false)
    (hwidth : 2 ≤ width) (hfull : line.length = width)
    (h : List.Forall₂ (ReturnsElement (stock o) d e) row line) :
    Returns (stock o) d u (inner row) (.grid [Cell.padRow width line]) := by
  rw [padRow_of_length_eq hfull]
  exact returns_of_cells hu he (ne_missing_of_two_le (by omega)) h

/-- The failure to read a missing cell as an element of a primitive type. -/
def emptyCell (e : DeclType) : Failure :=
  .nullArgument ("empty cell for " ++ e.display ++ " element")

/-- A row of a primitive type that is filled up cannot be read. -/
theorem read_padRow_eq_error (hu : OrderedType u e inner) (hp : e.isPrimitive = true)
    (hwidth : 2 ≤ width) (hlt : line.length < width)
    (h : List.Forall₂ (ReturnsElement (stock o) d e) row line) :
    (stock o).read d u (.grid [Cell.padRow width line]) = .error (emptyCell e) := by
  have hmissing : readElement ((stock o).read d) e .missing = .error (emptyCell e) := by
    rw [readElement_missing (DeclType.isCell_of_isPrimitive hp), hp]
    rfl
  have hlong : 2 ≤ (Cell.padRow width line).length := by
    rw [Cell.length_padRow (by omega)]
    exact hwidth
  have he : e.isContainer = false := by
    rw [Bool.eq_false_iff]
    intro he
    rw [DeclType.isPrimitive_of_isContainer he] at hp
    cases hp
  rw [hu.read_cells he d (ne_missing_of_two_le hlong)]
  apply map_eq_error_iff.2
  have hmem : Cell.missing ∈ List.replicate (width - line.length) Cell.missing :=
    List.mem_replicate.2 ⟨by omega, rfl⟩
  apply mapM_eq_error_of_unique (List.mem_append_right line hmem) hmissing
  intro c hmem f hf
  rcases List.mem_append.1 hmem with hline | hpad
  · obtain ⟨v, -, w, hw, -⟩ := exists_of_mem_left h.flip hline
    rw [hw] at hf
    cases hf
  · rw [List.eq_of_mem_replicate hpad, hmissing] at hf
    cases hf
    rfl

/-! ## Reading all rows -/

variable {values : List Value}

/-- Rows of two cells or more are not the grid that stands for no elements. -/
theorem padRows_ne_missing (hwidth : 2 ≤ width) (hle : ∀ line ∈ lines, line.length ≤ width) :
    lines.map (Cell.padRow width) ≠ [[.missing]] := by
  intro hm
  obtain ⟨line, rfl, hline⟩ := List.map_eq_singleton_iff.1 hm
  have hlength := Cell.length_padRow (hle line (List.mem_singleton_self line))
  rw [hline, List.length_singleton] at hlength
  omega

/-- Sequences come back from their rows in a grid of some width. -/
theorem returns_of_padded (ht : OrderedType t u outer) (hu : OrderedType u e inner)
    (hwidth : 2 ≤ width) (hle : ∀ line ∈ lines, line.length ≤ width)
    (h : List.Forall₂ (fun v line => Returns (stock o) d u v (.grid [Cell.padRow width line]))
      values lines) :
    Returns (stock o) d t (outer values) (.grid (lines.map (Cell.padRow width))) := by
  apply returns_of_lines ht hu.isContainer (padRows_ne_missing hwidth hle)
  rw [List.forall₂_map_right_iff]
  exact h

/-- Rows of a primitive type cannot be read where one of them was filled up. -/
theorem read_padded_eq_error (ht : OrderedType t u outer) (hu : OrderedType u e inner)
    (he : e.isContainer = false) (hp : e.isPrimitive = true) (hwidth : 2 ≤ width)
    (hle : ∀ line ∈ lines, line.length ≤ width) (hshort : ∃ row ∈ rows, row.length ≠ width)
    (h : List.Forall₂ (List.Forall₂ (ReturnsElement (stock o) d e)) rows lines) :
    (stock o).read d t (.grid (lines.map (Cell.padRow width))) = .error (emptyCell e) := by
  have hfails : ∀ line ∈ lines, line.length ≠ width →
      (stock o).read d u (.grid [Cell.padRow width line]) = .error (emptyCell e) := by
    intro line hline hne
    obtain ⟨row, -, hr⟩ := exists_of_mem_left h.flip hline
    have hlt : line.length < width := Nat.lt_of_le_of_ne (hle line hline) hne
    exact read_padRow_eq_error hu hp hwidth hlt hr
  obtain ⟨row, hrow, hne⟩ := hshort
  obtain ⟨line, hline, hr⟩ := exists_of_mem_left h hrow
  rw [hr.length_eq] at hne
  rw [ht.read_lines hu.isContainer d (padRows_ne_missing hwidth hle)]
  apply map_eq_error_iff.2
  apply mapM_eq_error_of_unique (List.mem_map_of_mem hline) (hfails line hline hne)
  intro padded hpadded f hf
  obtain ⟨other, hother, rfl⟩ := List.mem_map.1 hpadded
  by_cases hlength : other.length = width
  · obtain ⟨row', -, hr'⟩ := exists_of_mem_left h.flip hother
    obtain ⟨w, hw, -⟩ := returns_fullRow hu he hwidth hlength hr'
    rw [hw] at hf
    cases hf
  · rw [hfails other hother hlength] at hf
    cases hf
    rfl

/-- **Sequences of sequences are read as rows of one width.** In the registry of the stock table,
in either orientation, let the items of some inner sequences be written in order, for a type that is
neither a container nor for cells, on a consistent arena, and let each be no container and be read
back to an equal value, or be no value where the type admits this. Let the longest sequence have
`width` items, two or more. Then an array or a list of them, each an array or a list, is written as
a grid with one row of `width` cells for each sequence.

If the type of the items is not primitive, the grid is read as the same sequences in order, each
with no values at its end up to the width. If all sequences have this width, they come back as they
were, whatever the type. If the type is primitive and some sequence is shorter, the grid cannot be
read, for want of a value in an empty cell. -/
theorem read_write_nested (o o' : Orientation) (width : Nat) (ha : a.Consistent)
    (ht : OrderedType t u outer) (hu : OrderedType u e inner) (he : e.isContainer = false)
    (hc : e.isCell = false) (hflat : ∀ row ∈ rows, ∀ v ∈ row, v.isNested = false)
    (hle : ∀ row ∈ rows, row.length ≤ width) (hlongest : ∃ row ∈ rows, row.length = width)
    (hwidth : 2 ≤ width)
    (h : RestoresAll (stock o) (stock o') a (rows.flatten.map fun v => (e, v)) cells b) :
    ∃ grid, ((stock o).write t (outer (rows.map inner))).runOn a = (.ok (.grid grid), b) ∧
      grid.length = rows.length ∧ (∀ line ∈ grid, line.length = width) ∧
      (e.isPrimitive = false → Returns (stock o') b t
        (outer (rows.map fun row => inner (row ++ List.replicate (width - row.length) .null)))
        (.grid grid)) ∧
      ((∀ row ∈ rows, row.length = width) →
        Returns (stock o') b t (outer (rows.map inner)) (.grid grid)) ∧
      (e.isPrimitive = true → (∃ row ∈ rows, row.length ≠ width) →
        (stock o').read b t (.grid grid) = .error (emptyCell e)) := by
  have hwrites : List.Forall₂ (WritesLine (stock o) (stock o') u e) (rows.map inner) rows := by
    rw [List.forall₂_map_left_iff, List.forall₂_same]
    exact fun row hrow => hu.writesLine (hflat row hrow)
  have hne : rows.map inner ≠ [] := by
    obtain ⟨row, hrow, -⟩ := hlongest
    exact List.ne_nil_of_mem (List.mem_map_of_mem hrow)
  have hnested : ∀ v ∈ rows.map inner, v.isNested = true := by
    intro v hv
    obtain ⟨row, -, rfl⟩ := List.mem_map.1 hv
    exact hu.isNested row
  obtain ⟨lines, hwrite, -, hlines⟩ := ht.write_of_lines ha hwrites hne hnested h
  have hle' : ∀ line ∈ lines, line.length ≤ width := by
    intro line hline
    obtain ⟨row, hrow, hr⟩ := exists_of_mem_left hlines.flip hline
    rw [← List.Forall₂.length_eq hr]
    exact hle row hrow
  have hlongest' : ∃ line ∈ lines, line.length = width := by
    obtain ⟨row, hrow, hlength⟩ := hlongest
    obtain ⟨line, hline, hr⟩ := exists_of_mem_left hlines hrow
    exact ⟨line, hline, hr.length_eq.symm.trans hlength⟩
  rw [padded_lines (by omega) hle' hlongest'] at hwrite
  refine ⟨lines.map (Cell.padRow width), hwrite, ?_, ?_, fun hp => ?_, fun hfull => ?_,
    fun hp hshort => ?_⟩
  · rw [List.length_map, ← hlines.length_eq]
  · intro row hrow
    obtain ⟨line, hline, rfl⟩ := List.mem_map.1 hrow
    exact Cell.length_padRow (hle' line hline)
  · apply returns_of_padded ht hu hwidth hle'
    rw [List.forall₂_map_left_iff]
    refine ((List.forall₂_and_left rows lines).2 ⟨hle, hlines⟩).imp ?_
    rintro row line ⟨hrow, hr⟩
    exact returns_padRow hu he hc hp hwidth (hr.length_eq ▸ hrow) hr
  · apply returns_of_padded ht hu hwidth hle'
    rw [List.forall₂_map_left_iff]
    refine ((List.forall₂_and_left rows lines).2 ⟨hfull, hlines⟩).imp ?_
    rintro row line ⟨hrow, hr⟩
    exact returns_fullRow hu he hwidth (hr.length_eq ▸ hrow) hr
  · exact read_padded_eq_error ht hu he hp hwidth hle' hshort hlines

/-- A list of arrays of texts, one of them empty, and an array of lists of truth values, which come
back where they are of one length. -/
theorem read_write_nested_texts :
    let texts : DeclType := .array (.plain .string)
    let flag : DeclType := .plain (.primitive .boolean)
    let flags : DeclType := .generic .list [flag]
    let words : List (List Value) := [[.string "a", .null, .string "b"], [], [.string "c"]]
    let even : List (List Value) :=
      [[.boolean true, .boolean false], [.boolean false, .boolean true]]
    let ragged : List (List Value) := [[.boolean true, .boolean false], [.boolean true]]
    let a : Arena := {}
    (∃ grid, ((stock .column).write (.generic .list [texts]) (.list (words.map .array))).runOn a =
        (.ok (.grid grid), a) ∧ grid.length = 3 ∧
        Returns (stock .column) a (.generic .list [texts])
          (.list (words.map fun row => .array (row ++ List.replicate (3 - row.length) .null)))
          (.grid grid)) ∧
      (∃ grid, ((stock .row).write (.array flags) (.array (even.map .list))).runOn a =
        (.ok (.grid grid), a) ∧
        Returns (stock .row) a (.array flags) (.array (even.map .list)) (.grid grid)) ∧
      ∃ grid, ((stock .row).write (.array flags) (.array (ragged.map .list))).runOn a =
        (.ok (.grid grid), a) ∧
        (stock .row).read a (.array flags) (.grid grid) = .error (emptyCell flag) := by
  intro texts flag flags words even ragged a
  have ha : a.Consistent := Arena.consistent_empty .keep
  have htexts : OrderedType (.generic .list [texts]) texts .list := .list rfl
  have hflags : OrderedType flags flag .list := .list rfl
  refine ⟨?_, ?_, ?_⟩
  · have hwords : RestoresAll (stock .column) (stock .column) a
        (words.flatten.map fun v => (.plain .string, v))
        [.text "a", .missing, .text "b", .text "c"] a :=
      .cons (.value rfl rfl rfl) (.cons (.null rfl rfl) (.cons (.value rfl rfl rfl)
        (.cons (.value rfl rfl rfl) (.nil a))))
    obtain ⟨grid, hwrite, hlength, -, hread, -⟩ :=
      read_write_nested .column .column 3 ha htexts (.array _) rfl rfl
        (by simp [words, Value.isNested]) (by simp [words]) (by simp [words]) (by decide) hwords
    exact ⟨grid, hwrite, hlength, hread rfl⟩
  · have heven : RestoresAll (stock .row) (stock .row) a (even.flatten.map fun v => (flag, v))
        [.boolean true, .boolean false, .boolean false, .boolean true] a :=
      .cons (.value rfl rfl rfl) (.cons (.value rfl rfl rfl) (.cons (.value rfl rfl rfl)
        (.cons (.value rfl rfl rfl) (.nil a))))
    obtain ⟨grid, hwrite, -, -, -, hread, -⟩ :=
      read_write_nested .row .row 2 ha (.array flags) hflags rfl rfl
        (by simp [even, Value.isNested]) (by simp [even]) (by simp [even]) (by decide) heven
    exact ⟨grid, hwrite, hread (by simp [even])⟩
  · have hragged : RestoresAll (stock .row) (stock .row) a (ragged.flatten.map fun v => (flag, v))
        [.boolean true, .boolean false, .boolean true] a :=
      .cons (.value rfl rfl rfl) (.cons (.value rfl rfl rfl) (.cons (.value rfl rfl rfl) (.nil a)))
    obtain ⟨grid, hwrite, -, -, -, -, hread⟩ :=
      read_write_nested .row .row 2 ha (.array flags) hflags rfl rfl
        (by simp [ragged, Value.isNested]) (by simp [ragged]) (by simp [ragged]) (by decide) hragged
    exact ⟨grid, hwrite, hread rfl (by simp [ragged])⟩

end Registry

end CellMarshal
