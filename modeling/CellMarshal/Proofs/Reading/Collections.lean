import CellMarshal.Proofs.Reading.Parts
import CellMarshal.Proofs.Reading.Typed
import CellMarshal.Proofs.Value.Equality
import CellMarshal.Registry.Draft

/-!
# Where the sets and maps of a value come from

Each set and each map within a value that is read was made by a converter for sets or for maps from
a grid that the reading came down to, unless it lies within what a reference led to. Its elements
are what the parts of this grid were read as. The two converters differ in what they do about
repetitions, which appear only once the parts have been read. A set keeps of elements that are equal
the one that comes first, so that no two of its elements are equal. A map keeps one entry for each
row, in the order of the rows, whether or not an earlier row has the same key.

`Value.Within` says that a value occurs anywhere in another one. Main statements:
`distinct_eq_firstOccurrences`, `exists_reads_of_within` (by induction on the nesting of readings)
and `gathered_of_read`.
-/

namespace CellMarshal

/-! ## First occurrences -/

namespace Value

/-- The items that differ from each item before them, in their order. -/
def firstOccurrences (items : List Value) : List Value :=
  (items.zipIdx.filter fun p => !(items.take p.2).any fun w => w.same p.1).map Prod.fst

/-- One more item is a first occurrence unless it is equal to an earlier one. -/
theorem firstOccurrences_append_singleton (items : List Value) (v : Value) :
    firstOccurrences (items ++ [v]) =
      if items.any fun w => w.same v then firstOccurrences items
      else firstOccurrences items ++ [v] := by
  have hbefore : ∀ p ∈ items.zipIdx, (items ++ [v]).take p.2 = items.take p.2 := by
    intro p hp
    exact List.take_append_of_le_length (Nat.le_of_lt (List.mem_zipIdx' hp).1)
  have hkept : (items.zipIdx.filter fun p => !((items ++ [v]).take p.2).any fun w => w.same p.1) =
      items.zipIdx.filter fun p => !(items.take p.2).any fun w => w.same p.1 :=
    List.filter_congr fun p hp => by rw [hbefore p hp]
  rw [firstOccurrences, List.zipIdx_append, List.filter_append, List.map_append, hkept]
  cases hv : items.any fun w => w.same v <;> simp [firstOccurrences, hv]

/-- Every item is among those that are left when repetitions are dropped, or equal to one of them.
-/
theorem exists_mem_distinct {items : List Value} {v : Value} (h : v ∈ items) :
    ∃ w ∈ distinct items, w = v ∨ w.same v = true := by
  induction items using List.reverseRecOn with
  | nil => cases h
  | append_singleton items u ih =>
    rw [distinct_append_single, insertNew]
    rcases List.mem_append.1 h with h | h
    · obtain ⟨w, hw, hv⟩ := ih h
      refine ⟨w, ?_, hv⟩
      split
      · exact hw
      · exact List.mem_append_left _ hw
    · rw [List.mem_singleton.1 h]
      split
      · rename_i hany
        obtain ⟨w, hw, hu⟩ := List.any_eq_true.1 hany
        exact ⟨w, hw, Or.inr hu⟩
      · exact ⟨u, List.mem_append_right _ (List.mem_singleton_self u), Or.inl rfl⟩

/-- What repeats an item repeats one of those that are left, and the other way round. -/
theorem any_same_distinct (items : List Value) (v : Value) :
    ((distinct items).any fun w => w.same v) = items.any fun w => w.same v := by
  rw [Bool.eq_iff_iff, List.any_eq_true, List.any_eq_true]
  constructor
  · rintro ⟨w, hw, hv⟩
    exact ⟨w, mem_of_mem_distinct hw, hv⟩
  · rintro ⟨w, hw, hv⟩
    obtain ⟨u, hu, rfl | huw⟩ := exists_mem_distinct hw
    · exact ⟨u, hu, hv⟩
    · exact ⟨u, hu, same_trans u w v huw hv⟩

/-- **Dropping repetitions keeps first occurrences**: comparing an item with those that were kept
comes to the same as comparing it with all before it. -/
theorem distinct_eq_firstOccurrences (items : List Value) :
    distinct items = firstOccurrences items := by
  induction items using List.reverseRecOn with
  | nil => rfl
  | append_singleton items v ih =>
    rw [distinct_append_single, firstOccurrences_append_singleton, ← ih, ← any_same_distinct]
    rfl

/-! ## Occurring in a value -/

/-- A value occurs in another one: it is this value or occurs in a part of it. -/
inductive Within (w : Value) : Value → Prop
  | self : Within w w
  | part {p v : Value} (hp : p ∈ v.parts) (h : Within w p) : Within w v

/-- Only the value itself occurs in a value without parts. -/
theorem Within.eq_of_parts_nil {w v : Value} (h : w.Within v) (hv : v.parts = []) : w = v := by
  cases h with
  | self => rfl
  | part hp _ =>
    rw [hv] at hp
    cases hp

end Value

/-! ## What is gathered from the parts of a grid -/

namespace Reading

variable {a : Arena} {inner : Inner} {form : ConverterForm} {t : DeclType} {c : Cell} {v w : Value}
  {items : List Value} {rows : List (List Cell)}

/-- The rows of a grid; none of the grid that stands for no elements. -/
def filledRows (rows : List (List Cell)) : List (List Cell) :=
  if (Cell.grid rows).isEmptyGrid then [] else rows

/-- A row of two cells that are read as the key and the value of an entry. -/
def GivesEntry (inner : Inner) (t : DeclType) (row : List Cell) (entry : Value × Value) : Prop :=
  ∃ key value, row = [key, value] ∧ readPart inner ((entryTypes t).1, key) = .ok entry.1 ∧
    readPart inner ((entryTypes t).2, value) = .ok entry.2

/-- The elements of a set are the first occurrences among what the parts of a grid are read as. -/
def GathersSet (inner : Inner) (t : DeclType) (rows : List (List Cell)) (items : List Value) :
    Prop :=
  ∃ read, List.Forall₂ (fun part x => readPart inner part = .ok x) (parts .set t (.grid rows)) read ∧
    items = Value.firstOccurrences read ∧ Value.AllDifferent items

/-- The entries of a map are what the rows of a grid are read as, one for each row. -/
def GathersMap (inner : Inner) (t : DeclType) (rows : List (List Cell))
    (entries : List (Value × Value)) : Prop :=
  List.Forall₂ (GivesEntry inner t) (filledRows rows) entries

/-- The elements of a sequence are what the parts of the grid are read as, one for each. -/
theorem forall₂_of_readItems (h : readItems inner t c = .ok items)
    (hparts : ∀ rows, (Cell.grid rows).isEmptyGrid = false →
      parts form t (.grid rows) = itemParts t rows) :
    ∃ rows, c = .grid rows ∧
      List.Forall₂ (fun part x => readPart inner part = .ok x) (parts form t (.grid rows)) items := by
  cases c with
  | grid rows =>
    refine ⟨rows, rfl, ?_⟩
    cases hempty : (Cell.grid rows).isEmptyGrid with
    | true =>
      have hnil : readItems inner t (.grid rows) = .ok [] := by simp [readItems, hempty]
      rw [hnil] at h
      cases h
      rw [parts_of_isEmptyGrid hempty]
      exact .nil
    | false =>
      rw [readItems_grid hempty] at h
      rw [hparts rows hempty]
      exact mapM_eq_ok_iff.1 h
  | _ => cases h

/-- A set is read from a grid, and has the first occurrences among what its parts are read as. -/
theorem gathersSet_of_readForm (h : readForm a inner .set t c = .ok v) :
    ∃ rows items, c = .grid rows ∧ v = .set items ∧ GathersSet inner t rows items := by
  obtain ⟨read, hread, rfl⟩ := map_eq_ok_iff.1 h
  obtain ⟨rows, hrows, hall⟩ :=
    forall₂_of_readItems hread fun rows => parts_grid_of_sequence (Or.inr rfl)
  exact ⟨rows, _, hrows, rfl, read, hall, Value.distinct_eq_firstOccurrences read,
    Value.allDifferent_distinct read⟩

/-- An entry is read from a row of two cells, its key from the first and its value from the second.
-/
theorem givesEntry_of_readEntry {row : List Cell} {entry : Value × Value}
    (h : readEntry inner (entryTypes t) row = .ok entry) : GivesEntry inner t row entry := by
  unfold readEntry at h
  split at h
  · rename_i key value
    obtain ⟨x, hx, h⟩ := bind_eq_ok_iff.1 h
    obtain ⟨y, hy, h⟩ := bind_eq_ok_iff.1 h
    cases h
    exact ⟨key, value, rfl, hx, hy⟩
  · cases h

/-- A map is read from a grid of two columns, or from the one that stands for no elements. -/
theorem gathersMap_of_readForm (h : readForm a inner .map t c = .ok v) :
    ∃ rows entries, c = .grid rows ∧ v = .map entries ∧ GathersMap inner t rows entries ∧
      parts .map t c = (filledRows rows).flatMap (entryParts t) := by
  have hread : readMap inner t c = .ok v := h
  unfold readMap at hread
  split at hread
  · rename_i rows
    split at hread
    · rename_i hempty
      cases hread
      refine ⟨rows, [], rfl, rfl, ?_, ?_⟩
      · rw [GathersMap, filledRows, if_pos hempty]
        exact .nil
      · rw [filledRows, if_pos hempty, parts_of_isEmptyGrid hempty]
        rfl
    · rename_i hempty
      split at hread
      · cases hread
      · rename_i hdims
        obtain ⟨entries, hentries, rfl⟩ := map_eq_ok_iff.1 hread
        refine ⟨rows, entries, rfl, rfl, ?_, ?_⟩
        · rw [GathersMap, filledRows, if_neg hempty]
          exact (mapM_eq_ok_iff.1 hentries).imp fun _ _ => givesEntry_of_readEntry
        · rw [filledRows, if_neg hempty]
          exact parts_grid_of_map (by simpa using hempty) (by simpa using hdims)
  · cases hread

/-! ## What lies within a value that is read -/

/-- A value is what some part of a cell is read as. -/
def IsRead (inner : Inner) (form : ConverterForm) (t : DeclType) (c : Cell) (x : Value) : Prop :=
  ∃ part ∈ parts form t c, readPart inner part = .ok x

/-- Each of the values that the parts are read as is what some part is read as. -/
theorem isRead_of_forall₂
    (h : List.Forall₂ (fun part x => readPart inner part = .ok x) (parts form t c) items)
    (hv : v ∈ items) : IsRead inner form t c v := by
  obtain ⟨part, hpart, hread⟩ := exists_of_mem_left h.flip hv
  exact ⟨part, hpart, hread⟩

/-- The elements of an open array, or of its rows, are what the cells are read as. -/
theorem isRead_of_readRow {row : List Cell} {p : Value}
    (hcells : ∀ d ∈ row, (DeclType.object, d) ∈ parts form t c) (h : readRow inner row = .ok v)
    (hp : p ∈ v.parts) : IsRead inner form t c p := by
  obtain ⟨items, hitems, rfl⟩ := map_eq_ok_iff.1 h
  obtain ⟨d, hd, hread⟩ := exists_of_mem_mapM hitems hp
  exact ⟨_, hcells d hd, hread⟩

/-- A part of an array is what a part of the grid is read as, or one of the rows of an open array,
whose items are. -/
theorem isRead_of_readArray (h : readArray inner t c = .ok v) {p : Value} (hp : p ∈ v.parts) :
    IsRead inner .array t c p ∨
      ∃ items, p = .array items ∧ ∀ x ∈ items, IsRead inner .array t c x := by
  unfold readArray at h
  split at h
  · rename_i harray
    obtain ⟨items, hitems, rfl⟩ := map_eq_ok_iff.1 h
    have hparts : ∀ rows, (Cell.grid rows).isEmptyGrid = false →
        parts .array t (.grid rows) = itemParts t rows := fun rows hempty => by
      rw [parts_grid_of_array hempty, if_pos harray]
    obtain ⟨rows, rfl, hall⟩ := forall₂_of_readItems hitems hparts
    exact Or.inl (isRead_of_forall₂ hall hp)
  · rename_i harray
    unfold readOpenArray at h
    split at h
    · rename_i rows
      split at h
      · cases h
        cases hp
      · rename_i hempty
        have hcells : ∀ d ∈ rows.flatten, (DeclType.object, d) ∈ parts .array t (.grid rows) := by
          intro d hd
          rw [parts_grid_of_array (by simpa using hempty), if_neg harray]
          exact List.mem_map.2 ⟨d, hd, rfl⟩
        split at h
        · exact Or.inl (isRead_of_readRow hcells h hp)
        · obtain ⟨arrays, harrays, rfl⟩ := map_eq_ok_iff.1 h
          obtain ⟨row, hrow, hread⟩ := exists_of_mem_mapM harrays hp
          obtain ⟨items, -, rfl⟩ := map_eq_ok_iff.1 hread
          refine Or.inr ⟨items, rfl, fun x hx => isRead_of_readRow (fun d hd => ?_) hread hx⟩
          exact hcells d (List.mem_flatten.2 ⟨row, hrow, hd⟩)
    · cases h

/-- Every key and every value of a map is what some part of the grid is read as. -/
theorem isRead_of_readMap (h : readForm a inner .map t c = .ok v) {p : Value} (hp : p ∈ v.parts) :
    IsRead inner .map t c p := by
  obtain ⟨rows, entries, rfl, rfl, hall, hparts⟩ := gathersMap_of_readForm h
  obtain ⟨entry, hentry, hp⟩ := List.mem_flatMap.1 hp
  obtain ⟨row, hrow, key, value, rfl, hkey, hvalue⟩ := exists_of_mem_left hall.flip hentry
  have hmem : ∀ part ∈ entryParts t [key, value], part ∈ parts .map t (.grid rows) := by
    intro part hpart
    rw [hparts]
    exact List.mem_flatMap.2 ⟨_, hrow, hpart⟩
  simp only [List.mem_cons, List.not_mem_nil, or_false] at hp
  rcases hp with rfl | rfl
  · exact ⟨_, hmem _ (by simp [entryParts]), hkey⟩
  · exact ⟨_, hmem _ (by simp [entryParts]), hvalue⟩

/-- A value that shows a plain class has no parts. -/
theorem parts_eq_nil_of_type? {s : RawType} (h : v.type? = some (.plain s))
    (hs : s ≠ .list ∧ s ≠ .set ∧ s ≠ .map ∧ ∀ name, s ≠ .named name) : v.parts = [] := by
  cases v <;> first | rfl | (cases h <;> simp at hs)

/-- **The parts of a value that is read are what the parts of the cell are read as**, or arrays of
such values, unless the cell is a reference to follow. -/
theorem isRead_of_readForm (hf : form ≠ .objectHandle) (h : readForm a inner form t c = .ok v)
    {p : Value} (hp : p ∈ v.parts) :
    IsRead inner form t c p ∨ ∃ items, p = .array items ∧ ∀ x ∈ items, IsRead inner form t c x := by
  cases form with
  | list =>
    obtain ⟨items, hitems, rfl⟩ := map_eq_ok_iff.1 h
    obtain ⟨rows, rfl, hall⟩ :=
      forall₂_of_readItems hitems fun rows => parts_grid_of_sequence (Or.inl rfl)
    exact Or.inl (isRead_of_forall₂ hall hp)
  | set =>
    obtain ⟨items, hitems, rfl⟩ := map_eq_ok_iff.1 h
    obtain ⟨rows, rfl, hall⟩ :=
      forall₂_of_readItems hitems fun rows => parts_grid_of_sequence (Or.inr rfl)
    exact Or.inl (isRead_of_forall₂ hall (Value.mem_of_mem_distinct hp))
  | map => exact Or.inl (isRead_of_readMap h hp)
  | array => exact isRead_of_readArray h hp
  | handle =>
    have hread : readHandle c = .ok v := h
    unfold readHandle at hread
    split at hread <;> cases hread <;> cases hp
  | cell =>
    cases h
    cases hp
  | objectHandle => exact absurd rfl hf
  | _ =>
    have hnil := parts_eq_nil_of_type? (type?_of_readForm rfl h) (by simp)
    rw [hnil] at hp
    cases hp

/-- What occurs in a value that is read is the value itself or occurs in what a part of the cell is
read as, arrays apart. -/
theorem exists_part_of_within (hf : form ≠ .objectHandle)
    (h : readForm a inner form t c = .ok v) (hw : w.Within v) (harray : ∀ items, w ≠ .array items) :
    w = v ∨ ∃ x, IsRead inner form t c x ∧ w.Within x := by
  cases hw with
  | self => exact Or.inl rfl
  | part hp hw =>
    right
    rcases isRead_of_readForm hf h hp with hread | ⟨items, rfl, hitems⟩
    · exact ⟨_, hread, hw⟩
    · cases hw with
      | self => exact absurd rfl (harray items)
      | part hx hw => exact ⟨_, hitems _ hx, hw⟩

/-- A reference leads to what an object in the arena stands for. -/
theorem exists_get_of_readObject (h : readObject a t c = .ok v) :
    ∃ handle tag o, c = .reference handle tag ∧ a.get handle = .ok o ∧ v = unwrap o := by
  unfold readObject at h
  split at h
  · obtain ⟨o, ho, h⟩ := bind_eq_ok_iff.1 h
    split at h
    · cases h
      exact ⟨_, _, o, rfl, ho, rfl⟩
    · cases h
  · cases h

/-- What is read as an array is one. -/
theorem exists_array_of_readArray (h : readArray inner t c = .ok v) : ∃ items, v = .array items := by
  unfold readArray at h
  split at h
  · obtain ⟨items, -, rfl⟩ := map_eq_ok_iff.1 h
    exact ⟨items, rfl⟩
  · exact exists_array_of_readOpenArray h

/-- Sets and maps are read by the form for their class, or found behind a reference. -/
theorem form_of_readForm {f : ConverterForm} (hf : f = .set ∨ f = .map)
    (h : readForm a inner form t c = .ok v) (hv : v.type? = some f.valueType) :
    form = f ∨ form = .objectHandle := by
  -- the classes of sets and maps are no other's
  have hplain : form.valueType = f.valueType → form = f := by
    intro heq
    rcases hf with rfl | rfl <;> cases form <;> first | rfl | cases heq
  cases form with
  | objectHandle => exact Or.inr rfl
  | array =>
    obtain ⟨items, rfl⟩ := exists_array_of_readArray h
    rcases hf with rfl | rfl <;> cases hv
  | handle =>
    have hread : readHandle c = .ok v := h
    unfold readHandle at hread
    split at hread <;> cases hread <;> rcases hf with rfl | rfl <;> cases hv
  | cell =>
    cases h
    rcases hf with rfl | rfl <;> cases hv
  | _ =>
    have htype := type?_of_readForm rfl h
    rw [hv, Option.some.injEq] at htype
    exact Or.inl (hplain htype.symm)

end Reading

namespace Registry

open Reading

variable {r : Registry} {a : Arena} {t : DeclType} {c : Cell} {v w : Value}

/-! ## Collections and their origins -/

/-- A value occurs in what a reference leads to, which the reading of a cell comes down to. -/
def FromArena (r : Registry) (a : Arena) (t : DeclType) (c : Cell) (w : Value) : Prop :=
  ∃ e h tag o, r.Reads e (.reference h tag) t c ∧ a.get h = .ok o ∧ w.Within (unwrap o)

/-- **Whatever occurs in a value that is read was read itself**, by a reading that this one comes
down to, unless it lies within what a reference led to. Missing values and arrays are left out: a
missing element is read by no converter, and neither are the rows of an open array. -/
theorem exists_reads_of_within (h : r.read a t c = .ok v) (hw : w.Within v) (hnull : w ≠ .null)
    (harray : ∀ items, w ≠ .array items) :
    r.FromArena a t c w ∨ ∃ e d, r.Reads e d t c ∧ r.read a e d = .ok w := by
  -- readings within the cell have a smaller bound
  induction hn : bound t c using Nat.strongRecOn generalizing t c v with
  | ind n ih =>
    by_cases hwv : w = v
    · exact Or.inr ⟨t, c, .self, hwv ▸ h⟩
    have hread := h
    rw [read_eq] at hread
    obtain ⟨k, hk, hread⟩ := bind_eq_ok_iff.1 hread
    rw [resolveKind_ok_iff] at hk
    have hform := readForm_of_readBy hread
    by_cases hf : k.form = .objectHandle
    · rw [hf] at hform
      obtain ⟨handle, tag, o, rfl, ho, rfl⟩ := exists_get_of_readObject hform
      exact Or.inl ⟨t, handle, tag, o, .self, ho, hw⟩
    · rcases exists_part_of_within hf hform hw harray with hself | ⟨x, ⟨⟨s, b⟩, hpart, hx⟩, hwx⟩
      · exact absurd hself hwv
      · have hb : r.read a s b = .ok x := by
          unfold readPart readElement at hx
          split at hx
          · split at hx
            · cases hx
            · cases hx
              exact absurd (hwx.eq_of_parts_nil rfl) hnull
          · exact hx
        have hlt := bound_lt_of_isInner (isPart_of_mem_parts hpart).isInner
        rcases ih _ (hn ▸ hlt) hb hwx rfl with ⟨e, handle, tag, o, hreads, ho, hwo⟩ | ⟨e, d, hreads, hd⟩
        · exact Or.inl ⟨e, handle, tag, o, .part hk hpart hreads, ho, hwo⟩
        · exact Or.inr ⟨e, d, .part hk hpart hreads, hd⟩

/-- A set or a map that occurs in a value that is read lies within what a reference led to, or the
reading comes down to one by a converter for its class. -/
theorem exists_readForm_of_within {f : ConverterForm} (hf : f = .set ∨ f = .map)
    (h : r.read a t c = .ok v) (hw : w.Within v) (htype : w.type? = some f.valueType) :
    r.FromArena a t c w ∨ ∃ e d k, r.Reads e d t c ∧ r.reader? e d.kind = some k ∧ k.form = f ∧
      readForm a (r.read a) f e d = .ok w := by
  have hnull : w ≠ .null := by
    rintro rfl
    cases htype
  have harray : ∀ items, w ≠ .array items := by
    rintro items rfl
    rcases hf with rfl | rfl <;> cases htype
  rcases exists_reads_of_within h hw hnull harray with harena | ⟨e, d, hreads, hread⟩
  · exact Or.inl harena
  · rw [read_eq] at hread
    obtain ⟨k, hk, hread⟩ := bind_eq_ok_iff.1 hread
    rw [resolveKind_ok_iff] at hk
    have hform := readForm_of_readBy hread
    rcases form_of_readForm hf hform htype with hkf | hkf
    · exact Or.inr ⟨e, d, k, hreads, hk, hkf, hkf ▸ hform⟩
    · rw [hkf] at hform
      obtain ⟨handle, tag, o, rfl, ho, rfl⟩ := exists_get_of_readObject hform
      exact Or.inl ⟨e, handle, tag, o, hreads, ho, .self⟩

/-- **Sets and maps that are read are gathered from grids.** A converter for sets keeps first
occurrences, which are different from each other, and one for maps makes an entry of each row. Each
set and each map that occurs anywhere in a value that is read comes about in this way, from a grid
that the reading comes down to, or lies within what a reference led to. -/
theorem gathered_of_read (r : Registry) (a : Arena) :
    (∀ k e d v, k.form = .set → r.readWith a k e d = .ok v →
      ∃ rows items, d = .grid rows ∧ v = .set items ∧ GathersSet (r.read a) e rows items) ∧
    (∀ k e d v, k.form = .map → r.readWith a k e d = .ok v →
      ∃ rows entries, d = .grid rows ∧ v = .map entries ∧ GathersMap (r.read a) e rows entries) ∧
    ∀ t c v, r.read a t c = .ok v →
      (∀ items, (Value.set items).Within v → r.FromArena a t c (.set items) ∨
        ∃ e rows, r.Reads e (.grid rows) t c ∧ GathersSet (r.read a) e rows items) ∧
      ∀ entries, (Value.map entries).Within v → r.FromArena a t c (.map entries) ∨
        ∃ e rows, r.Reads e (.grid rows) t c ∧ GathersMap (r.read a) e rows entries := by
  refine ⟨fun k e d v hk h => ?_, fun k e d v hk h => ?_,
    fun t c v h => ⟨fun items hw => ?_, fun entries hw => ?_⟩⟩
  · exact gathersSet_of_readForm (hk ▸ readForm_of_readBy h)
  · obtain ⟨rows, entries, hd, hv, hgathers, -⟩ :=
      gathersMap_of_readForm (hk ▸ readForm_of_readBy h)
    exact ⟨rows, entries, hd, hv, hgathers⟩
  · rcases exists_readForm_of_within (Or.inl rfl) h hw rfl with
      harena | ⟨e, d, k, hreads, hk, hf, hread⟩
    · exact Or.inl harena
    · obtain ⟨rows, items', rfl, heq, hgathers⟩ := gathersSet_of_readForm hread
      cases heq
      exact Or.inr ⟨e, rows, hreads, hgathers⟩
  · rcases exists_readForm_of_within (Or.inr rfl) h hw rfl with
      harena | ⟨e, d, k, hreads, hk, hf, hread⟩
    · exact Or.inl harena
    · obtain ⟨rows, entries', rfl, heq, hgathers, -⟩ := gathersMap_of_readForm hread
      cases heq
      exact Or.inr ⟨e, rows, hreads, hgathers⟩

/-- A map from texts to sets of truth values, with nothing in the arena: the set within it is made
of its own grid, where one of its elements stands twice. -/
theorem gathered_of_read_nested :
    let t : DeclType := .generic .map [.plain .string, .generic .set [.plain (.boxed .boolean)]]
    let flags : List (List Cell) := [[.boolean true], [.boolean false], [.boolean true]]
    let items : List Value := [.boolean true, .boolean false]
    (stock .column).read {} t (.grid [[.text "EUR", .grid flags]]) =
        .ok (.map [(.string "EUR", .set items)]) ∧
      ∃ e rows, (stock .column).Reads e (.grid rows) t (.grid [[.text "EUR", .grid flags]]) ∧
        GathersSet ((stock .column).read {}) e rows items := by
  intro t flags items
  have h : (stock .column).read {} t (.grid [[.text "EUR", .grid flags]]) =
      .ok (.map [(.string "EUR", .set items)]) := rfl
  refine ⟨h, ?_⟩
  have hw : (Value.set items).Within (.map [(.string "EUR", .set items)]) :=
    .part (by simp [Value.parts]) .self
  rcases ((gathered_of_read (stock .column) {}).2.2 t _ _ h).1 items hw with
    ⟨_, _, _, _, -, hget, -⟩ | hgathered
  · cases hget
  · exact hgathered

/-- Two rows with one key are two entries of a map, and their keys are equal. -/
theorem map_read_with_repeated_key :
    let t : DeclType := .generic .map [.plain .string, .plain (.boxed .boolean)]
    let row : List Cell := [.text "EUR", .boolean true]
    let entry : Value × Value := (.string "EUR", .boolean true)
    (stock .column).read {} t (.grid [row, row]) = .ok (.map [entry, entry]) ∧
      entry.1.same entry.1 = true :=
  ⟨rfl, by decide⟩

end Registry

end CellMarshal
