import CellMarshal.Proofs.Reading.Typed
import CellMarshal.Proofs.Registry.Coherence
import CellMarshal.Proofs.RoundTrip.Stock
import CellMarshal.Proofs.Typing.Mentions

/-!
# Single cells settle

A cell that is no grid, no bag and no reference is read for a declared type, and the value that
comes of it is written again. In the registry of the stock table this settles at once: the cell that
is written is read as the same value, whether the value is written for the declared type or for the
type that it shows. It need not be the first cell: a number is cast, and a truth value that was read
from a number is written as a truth value.

For truth values, characters and texts this is shown here. For numbers and for dates it rests on the
arithmetic of floating-point numbers, and is taken as given: `Registry.CastsSettle` says of the
classes that a type mentions that their casts settle on some cells. Main statements:
`exists_writtenAs`, `settles_of_isSingle` and `exists_kept`.
-/

namespace CellMarshal

/-! ## Single cells and their classes -/

/-- A cell that is none of those that lead to something else: a scalar, or missing. -/
def Cell.isPlain (c : Cell) : Bool :=
  c.kind.isScalar || c.isMissing

namespace RawType

/-- The classes whose values become single cells. -/
def isSingle : RawType → Bool
  | primitive _ | boxed _ | string | date | dateTime => true
  | _ => false

/-- The classes whose values are cast, or counted in days, on the way from a cell. -/
def isCast : RawType → Bool
  | primitive p | boxed p => p.isNumeric
  | date | dateTime => true
  | _ => false

end RawType

namespace Registry

open Writing Reading

variable {o : Orientation} {a d : Arena} {t : DeclType} {s : RawType} {c : Cell} {v : Value}

/-! ## What is taken as given -/

/-- On a cell, reading and writing for a declared type settles: the value that is read from it and
written again is read from what was written. For a cast this says that to cast again what was cast
changes nothing. That the same cell is written again would not be enough where elements are
compared, since elements that differ could then become equal. -/
def Settles (r : Registry) (t : DeclType) (c : Cell) : Prop :=
  ∀ a v c', r.read a t c = .ok v → (r.write t v).runOn a = (.ok c', a) → r.read a t c' = .ok v

/-- On some cells, the casts settle that a declared type may give rise to: those of the classes that
it mentions, and of the integers that whole numbers are read as where any object fits. -/
def CastsSettle (r : Registry) (t : DeclType) (cells : List Cell) : Prop :=
  ∀ s : RawType, s.isCast = true → (t.mentions s = true ∨ s = .boxed .int) →
    ∀ c ∈ cells, r.Settles (.plain s) c

/-- Casts that settle on some cells settle on fewer. -/
theorem CastsSettle.of_subset {r : Registry} {cells fewer : List Cell} (h : r.CastsSettle t cells)
    (hsub : ∀ c ∈ fewer, c ∈ cells) : r.CastsSettle t fewer :=
  fun s hs hm c hc => h s hs hm c (hsub c hc)

/-- Casts that settle on some cells settle on each of them. -/
theorem CastsSettle.of_mem {r : Registry} {cells : List Cell} (h : r.CastsSettle t cells)
    (hc : c ∈ cells) : r.CastsSettle t [c] := by
  apply h.of_subset
  intro d hd
  rw [List.mem_singleton] at hd
  rw [hd]
  exact hc

/-- Casts that settle on the cells of a grid settle on those of each row. -/
theorem CastsSettle.of_row {r : Registry} {rows : List (List Cell)}
    (h : r.CastsSettle t rows.flatten) {row : List Cell} (hr : row ∈ rows) :
    r.CastsSettle t [row].flatten := by
  apply h.of_subset
  intro c hc
  rw [List.flatten_singleton] at hc
  exact List.mem_flatten.2 ⟨row, hr, hc⟩

/-- Casts that settle for a type settle for its arguments, and for slots that any object fits. -/
theorem CastsSettle.of_part {r : Registry} {cells : List Cell} (h : r.CastsSettle t cells)
    {p : DeclType} (hp : p ∈ t.args ∨ p = .object) : r.CastsSettle p cells := by
  intro s hs hm c hc
  apply h s hs _ c hc
  rcases hm with hm | hm
  · rcases hp with hp | rfl
    · exact Or.inl (DeclType.mentions_iff.2 (Or.inr ⟨p, hp, hm⟩))
    · rw [DeclType.object, DeclType.mentions, beq_iff_eq] at hm
      subst hm
      cases hs
  · exact Or.inr hm

/-! ## Writing -/

/-- A value that is written as a cell by the type that it shows, in every arena and leaving it as it
was, and written in the same way where it is declared as `t`. -/
structure WrittenAs (o : Orientation) (t : DeclType) (v : Value) (c : Cell) : Prop where
  shown : ∀ a, ((stock o).writeElement none v).runOn a = (.ok c, a)
  declared : (stock o).writeElement ((some t).filter fun t => !t.isOpen) v =
    (stock o).writeElement none v

/-- No value is written as a missing cell. -/
theorem writtenAs_null (o : Orientation) (t : DeclType) : WrittenAs o t .null .missing :=
  ⟨fun _ => rfl, rfl⟩

/-- A value that is written as a cell in every arena is written so for its declared type. -/
theorem WrittenAs.write (h : WrittenAs o t v c) (hv : v ≠ .null) (a : Arena) :
    ((stock o).write t v).runOn a = (.ok c, a) := by
  rw [← writeElement_eq_write _ t hv, h.declared]
  exact h.shown a

/-- A cell in a slot for cells is written as it is. -/
theorem writtenAs_cell (ht : t.isCell = true) (c : Cell) : WrittenAs o t (.cell c) c := by
  refine ⟨fun _ => rfl, ?_⟩
  rw [DeclType.isCell, DeclType.isOf, beq_iff_eq] at ht
  rcases t with u | e | ⟨u, ts⟩ <;> cases ht <;> rfl

/-- For an open type every value is written by the type that it shows. -/
theorem WrittenAs.of_open {u : DeclType} (h : WrittenAs o u v c) (ht : t.isOpen = true) :
    WrittenAs o t v c := by
  refine ⟨h.shown, ?_⟩
  rw [Option.filter_some, ht]
  rfl

/-- **Plain values are written by their class**, whether it is declared, or shown, or declared as
the primitive type. -/
theorem exists_writtenAs (ht : t.raw? = some s) (hs : s.isSingle = true)
    (hv : v.type? = some (.plain s.box)) :
    v.isNested = false ∧ ∃ c : Cell, c.kind.isScalar = true ∧ WrittenAs o t v c ∧
      ∀ a, ((stock o).write (.plain s) v).runOn a = (.ok c, a) := by
  rcases t with u | e | ⟨u, ts⟩
  case array => cases ht
  all_goals
    cases ht
    cases s <;> cases hs <;> cases v <;> cases hv <;>
      exact ⟨rfl, _, rfl, ⟨fun _ => rfl, rfl⟩, fun _ => rfl⟩

/-! ## Reading -/

/-- What a converter produces for a class does not depend on the arguments of the class. -/
theorem produces_of_raw? (k : Converter) (ht : t.raw? = some s) :
    k.produces t = k.produces (.plain s) := by
  rcases k with ⟨form, kind, priority⟩
  cases t <;> cases ht <;> cases form <;> rfl

/-- A single cell is not read as an array. -/
theorem readArray_of_isScalar (f : Inner) (hc : c.kind.isScalar = true) :
    readArray f t c = .error (.unexpectedCell .grid c) := by
  unfold readArray
  split <;> cases c <;> cases hc <;> rfl

/-- A single cell is not missing. -/
theorem isMissing_of_isScalar (hc : c.kind.isScalar = true) : c.isMissing = false := by
  cases c <;> first | rfl | cases hc

/-- A form reads a single cell without looking at the arena, at inner readings or at the declared
type. -/
theorem readForm_of_isScalar {f g : Inner} {t' : DeclType} (hc : c.kind.isScalar = true)
    (form : ConverterForm) : readForm a f form t c = readForm d g form t' c := by
  cases form with
  | array =>
    simp only [readForm]
    rw [readArray_of_isScalar f hc, readArray_of_isScalar g hc]
  | list | set | map | objectHandle => cases c <;> cases hc <;> rfl
  | _ => rfl

/-- A single cell is read by a converter in the same way for whatever type, in whatever arena. -/
theorem readBy_of_isScalar {f g : Inner} {t' : DeclType} (hc : c.kind.isScalar = true)
    (k : Converter) : readBy a f k t c = readBy d g k t' c := by
  simp only [readBy, isMissing_of_isScalar hc, Bool.false_and, Bool.false_eq_true, if_false]
  rw [readForm_of_isScalar hc]

/-- A single cell is read for a class with arguments as for the class alone, in whatever arena. -/
theorem read_of_raw? {r : Registry} (ht : t.raw? = some s) (hc : c.kind.isScalar = true) :
    r.read a t c = .ok v ↔ r.read d (.plain s) c = .ok v := by
  have hreader : r.reader? t c.kind = r.reader? (.plain s) c.kind := by
    rw [reader?_eq_find?, reader?_eq_find?]
    congr
    funext k
    rw [produces_of_raw? k ht]
  rw [read_eq, read_eq]
  rcases hk : r.reader? (.plain s) c.kind with _ | k
  · rw [resolveKind_of_none hk, resolveKind_of_none (hreader.trans hk)]
    exact iff_of_false (by rintro ⟨⟩) (by rintro ⟨⟩)
  · rw [resolveKind_of_some hk, resolveKind_of_some (hreader.trans hk)]
    show readBy a (r.read a) k t c = .ok v ↔ readBy d (r.read d) k (.plain s) c = .ok v
    rw [readBy_of_isScalar hc]

/-- The forms that can be used with single cells are those for the classes of plain values, and the
one for cells. -/
theorem isSingle_of_supports {form : ConverterForm} {kind : CellKind}
    (h : form.supports kind = true) (hkind : kind.isScalar = true) (hform : form ≠ .cell) :
    form.isPlain = true ∧
      ∃ u : RawType, form.valueType = .plain u ∧ u.isSingle = true ∧ u.isPrimitive = false := by
  cases form with
  | cell => exact absurd rfl hform
  | numeric p => exact ⟨rfl, _, rfl, rfl, rfl⟩
  | list | set | map | array | handle | objectHandle =>
    rw [ConverterForm.supports, beq_iff_eq] at h
    rw [h] at hkind
    cases hkind
  | _ => exact ⟨rfl, _, rfl, rfl, rfl⟩

/-- The converters of the stock table are used with kinds of cells that their forms support. -/
theorem supports_of_mem_stock {k : Converter} (h : k ∈ (stock o).ranked) :
    k.form.supports k.kind = true := by
  have htable : ∀ k ∈ stockTable, k.form.supports k.kind = true := by decide
  exact htable k (mem_rank.1 h)

/-- What is read from a single cell for a slot that is not for cells is a plain value of a class
that the slot takes. -/
theorem exists_type?_of_read (hc : c.kind.isScalar = true) (ht : t.isCell = false)
    (h : (stock o).read a t c = .ok v) :
    ∃ u : RawType, u.isSingle = true ∧ u.isPrimitive = false ∧ v.type? = some (.plain u) ∧
      t.accepts (.plain u) = true := by
  rw [read_eq] at h
  obtain ⟨k, hk, h⟩ := bind_eq_ok_iff.1 h
  obtain ⟨hmem, hreads, hproduces⟩ := of_reader?_eq_some (resolveKind_ok_iff.1 hk)
  have hform : k.form ≠ .cell := by
    intro hcell
    rw [Converter.produces_of_cell hcell, ht] at hproduces
    cases hproduces
  have hkind : k.kind = c.kind := by
    rcases Converter.reads_iff.1 hreads with hf | hk | ⟨hmissing, -⟩
    · exact absurd hf hform
    · exact hk
    · rw [hmissing] at hc
      cases hc
  have hsupports := supports_of_mem_stock hmem
  rw [hkind] at hsupports
  obtain ⟨hplain, u, hu, hsingle, hprim⟩ := isSingle_of_supports hsupports hc hform
  refine ⟨u, hsingle, hprim, ?_, ?_⟩
  · rw [← hu]
    exact type?_of_readForm hplain (readForm_of_readBy h)
  · rw [← hu]
    rw [Converter.produces_of_plain hplain] at hproduces
    exact hproduces

/-- For a closed type it is the class of the type, boxed. -/
theorem exists_raw?_of_read (hc : c.kind.isScalar = true) (hcell : t.isCell = false)
    (ho : t.isOpen = false) (h : (stock o).read a t c = .ok v) :
    ∃ s : RawType, t.raw? = some s ∧ s.isSingle = true ∧ v.type? = some (.plain s.box) := by
  obtain ⟨u, hsingle, hprim, hv, haccepts⟩ := exists_type?_of_read hc hcell h
  rcases hs : t.raw? with _ | s
  · obtain ⟨e, rfl⟩ := DeclType.raw?_eq_none_iff.1 hs
    rw [DeclType.accepts_array_of_raw rfl] at haccepts
    cases haccepts
  · rw [DeclType.accepts_raw_raw hs rfl] at haccepts
    have hne : s ≠ .void ∧ s ≠ .number ∧ s ≠ .collection ∧ s ≠ .object := by
      refine ⟨?_, ?_, ?_, ?_⟩
      · rintro rfl
        cases haccepts
      all_goals
        rintro rfl
        rw [DeclType.isOpen, hs] at ho
        cases ho
    obtain ⟨hvoid, hnumber, hcollection, hobject⟩ := hne
    have hbox : u = s.box :=
      (RawType.accepts_iff_eq_box hprim hvoid hnumber hcollection hobject).1 haccepts
    refine ⟨s, rfl, ?_, hbox ▸ hv⟩
    rw [hbox] at hsingle
    cases s with
    | primitive p => rfl
    | _ => exact hsingle

/-! ## Settling -/

/-- **Truth values, characters and texts settle**, so that only casts are left to be given. -/
theorem settles_of_isSingle (hs : s.isSingle = true) (hc : c.kind.isScalar = true)
    (hcast : s.isCast = true → (stock o).Settles (.plain s) c) :
    (stock o).Settles (.plain s) c := by
  by_cases hn : s.isCast = true
  · exact hcast hn
  intro a v c' hr hw
  have hclosed : (DeclType.plain s).isCell = false ∧ (DeclType.plain s).isOpen = false := by
    cases s <;> cases hs <;> exact ⟨rfl, rfl⟩
  obtain ⟨u, hu, -, hv⟩ := exists_raw?_of_read hc hclosed.1 hclosed.2 hr
  cases hu
  cases s with
  | primitive p | boxed p =>
    cases p with
    | boolean =>
      cases v <;> cases hv
      cases hw
      rfl
    | char =>
      cases v <;> cases hv
      cases hw
      show Scalar.readCharText (.text (String.singleton _)) = _
      rw [Scalar.readCharText, String.toList_singleton]
    | _ => exact absurd rfl hn
  | string =>
    cases v <;> cases hv
    cases hw
    rfl
  | date | dateTime => exact absurd rfl hn
  | _ => cases hs

/-- Integers settle on a cell where its number, as an integer, is cast to the same integer again. -/
theorem settles_int {x : Float} (hx : c.asNumber? = some x)
    (h : Scalar.toInteger (Float.ofInt (Scalar.toInteger x).toInt) = Scalar.toInteger x) :
    (stock o).Settles (.plain (.boxed .int)) c := by
  intro a v c' hr hw
  obtain rfl : v = .int (Scalar.toInteger x) := by
    cases c <;> cases hx <;> cases hr <;> rfl
  cases hw
  let again (n : Int32) : Int32 := Scalar.toInteger (Float.ofInt n.toInt)
  -- On writing, the integer is cast to its class first and to the narrow integer of the cell then.
  show Except.ok (Value.int (again (again (again (Scalar.toInteger x))))) = _
  have hagain : again (Scalar.toInteger x) = Scalar.toInteger x := h
  rw [hagain, hagain, hagain]

/-- A value, the cell that it is written as, and what is needed for a grid of such cells: that the
value is no container, and that the cell is read as the value again. -/
structure Kept (o : Orientation) (t : DeclType) (v : Value) (c : Cell) : Prop where
  flat : v.isNested = false
  written : WrittenAs o t v c
  read : ∀ d, readElement ((stock o).read d) t c = .ok v

/-- A cell that is not missing is read as an element as it is on its own. -/
theorem readElement_of_ne_missing (f : Inner) (e : DeclType) (hc : c ≠ .missing) :
    readElement f e c = f e c := by
  have hm : c.isMissing = false := by
    rw [Bool.eq_false_iff]
    exact fun h => hc (Cell.isMissing_iff.1 h)
  rw [readElement, hm]
  rfl

/-- A single cell is not the missing one. -/
theorem ne_missing_of_isScalar (hc : c.kind.isScalar = true) : c ≠ .missing := by
  rintro rfl
  cases hc

/-- A value that is written as a single cell, and read from it again in every arena, is kept. -/
theorem Kept.of_isScalar (hn : v.isNested = false) (hw : WrittenAs o t v c)
    (hc : c.kind.isScalar = true) (h : ∀ d, (stock o).read d t c = .ok v) : Kept o t v c := by
  refine ⟨hn, hw, fun d => ?_⟩
  rw [readElement_of_ne_missing _ _ (ne_missing_of_isScalar hc)]
  exact h d

/-- Where a closed type settles on a cell, the value that is read is kept. -/
theorem exists_kept_of_settles (ht : t.raw? = some s) (hs : s.isSingle = true)
    (hc : c.kind.isScalar = true) (hv : v.type? = some (.plain s.box))
    (hset : (stock o).Settles (.plain s) c) (h : (stock o).read a t c = .ok v) :
    ∃ c' : Cell, c'.kind.isScalar = true ∧ Kept o t v c' := by
  obtain ⟨hn, c', hc', hwritten, hwrite⟩ := exists_writtenAs (o := o) ht hs hv
  have hback : (stock o).read a (.plain s) c' = .ok v :=
    hset a v c' ((read_of_raw? ht hc).1 h) (hwrite a)
  exact ⟨c', hc', .of_isScalar hn hwritten hc' fun d => (read_of_raw? ht hc').2 hback⟩

/-- For an open type the value that is read is kept, given that whole numbers settle. -/
theorem exists_kept_of_isOpen (ho : t.isOpen = true) (hc : c.kind.isScalar = true)
    (hint : (stock o).Settles (.plain (.boxed .int)) c) (h : (stock o).read a t c = .ok v) :
    ∃ c' : Cell, c'.kind.isScalar = true ∧ Kept o t v c' := by
  obtain ⟨s, hs, hopen⟩ : ∃ s, t.raw? = some s ∧ (s = .object ∨ s = .number ∨ s = .collection) := by
    rw [DeclType.isOpen] at ho
    split at ho
    · exact ⟨_, ‹_›, Or.inl rfl⟩
    · exact ⟨_, ‹_›, Or.inr (Or.inl rfl)⟩
    · exact ⟨_, ‹_›, Or.inr (Or.inr rfl)⟩
    · cases ho
  have hread : (stock o).read a (.plain s) c = .ok v := (read_of_raw? hs hc).1 h
  -- It suffices to keep the value for the class that it shows, in a cell that is read for the type.
  suffices ∃ (u : RawType) (c' : Cell), v.isNested = false ∧ WrittenAs o (.plain u) v c' ∧
      c'.kind.isScalar = true ∧ (stock o).read a (.plain s) c' = .ok v by
    obtain ⟨u, c', hn, hw, hc', hback⟩ := this
    exact ⟨c', hc', .of_isScalar hn (hw.of_open ho) hc' fun d => (read_of_raw? hs hc').2 hback⟩
  cases c with
  | integer i =>
    have hwhole : (stock o).read a (.plain (.boxed .int)) (.integer i) = .ok v := by
      rcases hopen with rfl | rfl | rfl
      · exact hread
      · exact hread
      · cases hread
    cases hwhole
    refine ⟨.boxed .int, _, rfl, ⟨fun _ => rfl, rfl⟩, rfl, ?_⟩
    have hback := hint a _ _ rfl rfl
    rcases hopen with rfl | rfl | rfl
    · exact hback
    · exact hback
    · cases hread
  | number x =>
    rcases hopen with rfl | rfl | rfl
    all_goals cases hread
    all_goals exact ⟨.boxed .double, .number x, rfl, ⟨fun _ => rfl, rfl⟩, rfl, rfl⟩
  | text s =>
    rcases hopen with rfl | rfl | rfl
    all_goals cases hread
    exact ⟨.string, .text s, rfl, ⟨fun _ => rfl, rfl⟩, rfl, rfl⟩
  | boolean b =>
    rcases hopen with rfl | rfl | rfl
    all_goals cases hread
    exact ⟨.boxed .boolean, .boolean b, rfl, ⟨fun _ => rfl, rfl⟩, rfl, rfl⟩
  | error e => rcases hopen with rfl | rfl | rfl <;> cases hread
  | _ => cases hc

/-- What is read from a scalar cell is kept, where the slot is not for cells. -/
theorem exists_kept_of_isScalar (hcasts : (stock o).CastsSettle t [c])
    (hc : c.kind.isScalar = true) (hcell : t.isCell = false)
    (h : (stock o).read a t c = .ok v) : ∃ c' : Cell, c'.kind.isScalar = true ∧ Kept o t v c' := by
  have hmem : c ∈ [c] := List.mem_singleton_self c
  by_cases ho : t.isOpen = true
  · exact exists_kept_of_isOpen ho hc (hcasts (.boxed .int) rfl (Or.inr rfl) c hmem) h
  · rw [Bool.not_eq_true] at ho
    obtain ⟨s, hs, hsingle, hv⟩ := exists_raw?_of_read hc hcell ho h
    have hset : (stock o).Settles (.plain s) c := by
      apply settles_of_isSingle hsingle hc
      intro hcast
      exact hcasts s hcast (Or.inl (DeclType.mentions_iff.2 (Or.inl hs))) c hmem
    exact exists_kept_of_settles hs hsingle hc hv hset h

/-- A slot for cells takes every cell as it is. -/
theorem read_of_isCell (ht : t.isCell = true) (c : Cell) :
    (stock o).read a t c = .ok (.cell c) := by
  rw [DeclType.isCell, DeclType.isOf, beq_iff_eq] at ht
  rcases t with u | e | ⟨u, ts⟩ <;> cases ht <;> cases c <;> rfl

/-- A missing element is no value, and fails for a primitive type. -/
theorem readElement_missing (ht : t.isCell = false) (f : Inner) :
    readElement f t .missing =
      if t.isPrimitive then .error (.nullArgument ("empty cell for " ++ t.display ++ " element"))
      else .ok .null := by
  rw [readElement, ht]
  rfl

/-- **Single cells settle**: what is read from one as an element is no container, and is written as
a cell that is read as the same value. A missing cell comes of a missing cell alone. -/
theorem exists_kept (hcasts : (stock o).CastsSettle t [c]) (hc : c.isPlain = true)
    (h : readElement ((stock o).read a) t c = .ok v) :
    ∃ c' : Cell, (c' = .missing → c = .missing) ∧ Kept o t v c' := by
  by_cases hcell : t.isCell = true
  · have hread : ∀ d, readElement ((stock o).read d) t c = .ok (.cell c) := by
      intro d
      rw [readElement, hcell, Bool.not_true, Bool.and_false]
      exact read_of_isCell hcell c
    rw [hread a] at h
    cases h
    exact ⟨c, id, rfl, writtenAs_cell hcell c, hread⟩
  rw [Bool.not_eq_true] at hcell
  by_cases hm : c = .missing
  · subst hm
    rw [readElement_missing hcell] at h
    obtain ⟨hp, rfl⟩ : t.isPrimitive = false ∧ v = .null := by
      split at h
      · cases h
      · rename_i hp
        cases h
        exact ⟨Bool.eq_false_iff.2 hp, rfl⟩
    refine ⟨.missing, id, rfl, writtenAs_null o t, fun d => ?_⟩
    rw [readElement_missing hcell, hp]
    rfl
  rw [Cell.isPlain, Bool.or_eq_true, Cell.isMissing_iff] at hc
  have hscalar : c.kind.isScalar = true := hc.resolve_right hm
  have hread : (stock o).read a t c = .ok v := by
    rw [readElement_of_ne_missing _ _ hm] at h
    exact h
  obtain ⟨c', hc', hk⟩ := exists_kept_of_isScalar hcasts hscalar hcell hread
  exact ⟨c', fun hm' => absurd hm' (ne_missing_of_isScalar hc'), hk⟩

end Registry

end CellMarshal
