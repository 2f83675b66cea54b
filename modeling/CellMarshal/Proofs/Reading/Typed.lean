import CellMarshal.Proofs.Traversal
import CellMarshal.Registry.Draft
import CellMarshal.Registry.Read

/-!
# What is read fits the slot

A converter is picked for a slot by the class that it says it produces, and reads the cell without
looking at the slot again. That both agree is the theorem here: whatever a registry reads for a
declared type is an instance of it, down to the elements of arrays of arrays.

The proof follows the reading. Forms for plain values and for the container classes show the class
that they are registered for (`type?_of_readForm`), references and cells are handed on to slots of
their own, objects are checked, and an array is read element by element, each for the component
type. Main statements: `isInstanceOf_of_readBy` (one converter, given that the readings within it
are right), `isTyped_readWithin` (by induction on the nesting) and `read_isInstanceOf`.
-/

namespace CellMarshal

/-! ## Arrays of arrays -/

/-- The values that lie a number of arrays deep in a value. -/
def Value.atDepth : Nat → Value → List Value
  | 0, v => [v]
  | n + 1, array items => items.flatMap (atDepth n)
  | _ + 1, _ => []

/-- The component of an array type, a number of arrays deep. -/
def DeclType.componentAt? : Nat → DeclType → Option DeclType
  | 0, t => some t
  | n + 1, array c => componentAt? n c
  | _ + 1, _ => none

/-- No value fits a primitive slot only by being a value. -/
theorem Value.ne_null_of_isInstanceOf {v : Value} {t : DeclType} (h : v.isInstanceOf t = true)
    (ht : t.isPrimitive = true) : v ≠ null := by
  rintro rfl
  rw [isInstanceOf_null, ht] at h
  cases h

/-- What fits an array type fits it at every depth. -/
theorem Value.isInstanceOf_atDepth {n : Nat} {v w : Value} {target t : DeclType}
    (h : v.isInstanceOf target = true) (ht : target.componentAt? n = some t)
    (hw : w ∈ v.atDepth n) : w.isInstanceOf t = true := by
  induction n generalizing v target with
  | zero =>
    cases ht
    rw [atDepth, List.mem_singleton] at hw
    rw [hw]
    exact h
  | succ n ih =>
    cases target with
    | array c =>
      cases v with
      | array items =>
        obtain ⟨x, hx, hwx⟩ := List.mem_flatMap.1 hw
        rw [isInstanceOf_array, allInstancesOf_iff] at h
        exact ih (h x hx) ht hwx
      | _ => cases hw
    | _ => cases ht

namespace Scalar

/-! ## Single cells -/

variable {p : Primitive} {c : Cell} {v : Value}

/-- A cast gives a value of the box of its type. -/
theorem type?_cast (p : Primitive) (x : Float) : (cast p x).type? = some (.plain (.boxed p)) := by
  cases p <;> rfl

/-- What is read as a number is of the type of the converter. -/
theorem type?_of_readNumeric (h : readNumeric p c = .ok v) :
    v.type? = some (.plain (.boxed p)) := by
  unfold readNumeric at h
  split at h
  · cases h
  · split at h
    · cases h
      rfl
    · cases h
      exact type?_cast p _

/-- What is read as a truth value is one. -/
theorem type?_of_readLogical (h : readLogical c = .ok v) :
    v.type? = some (.plain (.boxed .boolean)) := by
  cases c <;> cases h
  rfl

/-- What is read from a number as a truth value is one. -/
theorem type?_of_readLogicalNumeric (h : readLogicalNumeric c = .ok v) :
    v.type? = some (.plain (.boxed .boolean)) := by
  unfold readLogicalNumeric at h
  split at h
  · cases h
    rfl
  · cases h

/-- What is read as a text is one. -/
theorem type?_of_readText (h : readText c = .ok v) : v.type? = some (.plain .string) := by
  cases c <;> cases h
  rfl

/-- What is read from a number as a text is one. -/
theorem type?_of_readTextNumeric (h : readTextNumeric c = .ok v) :
    v.type? = some (.plain .string) := by
  unfold readTextNumeric at h
  split at h
  · cases h
    rfl
  · cases h

/-- What is read as a character is one. -/
theorem type?_of_readCharText (h : readCharText c = .ok v) :
    v.type? = some (.plain (.boxed .char)) := by
  unfold readCharText at h
  split at h
  · split at h
    · cases h
      rfl
    · cases h
  · cases h

/-- What is read as a date is one. -/
theorem type?_of_readDate (h : readDate c = .ok v) : v.type? = some (.plain .date) := by
  obtain ⟨t, -, rfl⟩ := map_eq_ok_iff.1 h
  rfl

/-- What is read as a moment is one. -/
theorem type?_of_readDateTime (h : readDateTime c = .ok v) : v.type? = some (.plain .dateTime) := by
  obtain ⟨t, -, rfl⟩ := map_eq_ok_iff.1 h
  rfl

end Scalar

namespace Reading

variable {a : Arena} {inner : Inner} {target : DeclType} {c : Cell} {v : Value}

/-! ## Forms that show their own class -/

/-- What is read as a map is one. -/
theorem exists_map_of_readMap (h : readMap inner target c = .ok v) :
    ∃ entries, v = .map entries := by
  unfold readMap at h
  split at h
  · split at h
    · cases h
      exact ⟨[], rfl⟩
    · split at h
      · cases h
      · obtain ⟨entries, -, rfl⟩ := map_eq_ok_iff.1 h
        exact ⟨entries, rfl⟩
  · cases h

/-- Every form for the values of one class reads values of this class. -/
theorem type?_of_readForm {form : ConverterForm} (hf : form.isPlain = true)
    (h : readForm a inner form target c = .ok v) : v.type? = some form.valueType := by
  cases form with
  | numeric p => exact Scalar.type?_of_readNumeric h
  | logical => exact Scalar.type?_of_readLogical h
  | logicalNumeric => exact Scalar.type?_of_readLogicalNumeric h
  | text => exact Scalar.type?_of_readText h
  | textNumeric => exact Scalar.type?_of_readTextNumeric h
  | charText => exact Scalar.type?_of_readCharText h
  | date => exact Scalar.type?_of_readDate h
  | dateTime => exact Scalar.type?_of_readDateTime h
  | list =>
    obtain ⟨items, -, rfl⟩ := map_eq_ok_iff.1 h
    rfl
  | set =>
    obtain ⟨items, -, rfl⟩ := map_eq_ok_iff.1 h
    rfl
  | map =>
    obtain ⟨entries, rfl⟩ := exists_map_of_readMap h
    rfl
  | _ => cases hf

/-! ## References and objects -/

/-- A reference that is handed on is an instance of every type of references, and so is no value. -/
theorem isInstanceOf_of_readHandle (ht : target.isHandle = true) (h : readHandle c = .ok v) :
    v.isInstanceOf target = true := by
  have hraw : target.raw? = some .handle := by simpa [DeclType.isHandle, DeclType.isOf] using ht
  unfold readHandle at h
  split at h
  · cases h
    rw [Value.isInstanceOf_of_type? rfl (by simp), DeclType.accepts_raw_raw hraw rfl]
    rfl
  · cases h
    rw [Value.isInstanceOf_null, DeclType.isPrimitive, hraw]
    rfl
  · cases h

/-- A cell is an instance of every type of cells. -/
theorem isInstanceOf_cell (ht : target.isCell = true) (c : Cell) :
    (Value.cell c).isInstanceOf target = true := by
  have hraw : target.raw? = some .cell := by simpa [DeclType.isCell, DeclType.isOf] using ht
  rw [Value.isInstanceOf_of_type? rfl (by simp), DeclType.accepts_raw_raw hraw rfl]
  rfl

/-- What a reference leads to is checked to be an instance of the type. -/
theorem isInstanceOf_of_readObject (h : readObject a target c = .ok v) :
    v.isInstanceOf target = true := by
  unfold readObject at h
  split at h
  · obtain ⟨o, -, h⟩ := bind_eq_ok_iff.1 h
    split at h
    · cases h
      assumption
    · cases h
  · cases h

/-! ## Elements -/

/-- What holds of an inner reading that is right: it gives instances of the type it reads for. -/
def IsTyped (inner : Inner) : Prop :=
  ∀ t d w, inner t d = .ok w → w.isInstanceOf t = true

variable (hi : IsTyped inner)

include hi

/-- An element that is read is an instance of its type, given that inner readings are. -/
theorem isInstanceOf_of_readElement {elem : DeclType} (h : readElement inner elem c = .ok v) :
    v.isInstanceOf elem = true := by
  unfold readElement at h
  split at h
  · split at h
    · cases h
    · rename_i hp
      cases h
      rw [Value.isInstanceOf_null]
      simpa using hp
  · exact hi _ _ _ h

/-- The elements of a sequence are instances of the type that they are read for. -/
theorem isInstanceOf_of_readItems {items : List Value} (h : readItems inner target c = .ok items)
    (hv : v ∈ items) : v.isInstanceOf (elementType target) = true := by
  unfold readItems at h
  split at h
  · split at h
    · cases h
      cases hv
    · split at h
      · obtain ⟨row, -, hr⟩ := exists_of_mem_mapM h hv
        exact hi _ _ _ hr
      · obtain ⟨d, -, hd⟩ := exists_of_mem_mapM h hv
        exact isInstanceOf_of_readElement hi hd
  · cases h

omit hi in
/-- What is read as an open array is an array. -/
theorem exists_array_of_readOpenArray (h : readOpenArray inner c = .ok v) :
    ∃ items, v = .array items := by
  unfold readOpenArray at h
  split at h
  · split at h
    · cases h
      exact ⟨[], rfl⟩
    · split at h
      · obtain ⟨items, -, rfl⟩ := map_eq_ok_iff.1 h
        exact ⟨items, rfl⟩
      · obtain ⟨items, -, rfl⟩ := map_eq_ok_iff.1 h
        exact ⟨items, rfl⟩
  · cases h

/-- An array read for an array type fits element by element; one read for a slot that any object
fits does not have to. -/
theorem isInstanceOf_of_readArray (ht : (target.isArray || target.isObject) = true)
    (h : readArray inner target c = .ok v) : v.isInstanceOf target = true := by
  unfold readArray at h
  cases target with
  | array component =>
    obtain ⟨items, hitems, rfl⟩ := map_eq_ok_iff.1 h
    rw [Value.isInstanceOf_array, Value.allInstancesOf_iff]
    intro w hw
    exact isInstanceOf_of_readItems hi hitems hw
  | plain t =>
    obtain ⟨items, rfl⟩ := exists_array_of_readOpenArray h
    rw [Value.isInstanceOf_array_of_raw rfl]
    exact ht
  | generic t args =>
    obtain ⟨items, rfl⟩ := exists_array_of_readOpenArray h
    rw [Value.isInstanceOf_array_of_raw rfl]
    exact ht

/-! ## One converter -/

omit hi in
/-- What a converter reads, it reads by its form. -/
theorem readForm_of_readBy {k : Converter} (h : readBy a inner k target c = .ok v) :
    readForm a inner k.form target c = .ok v := by
  unfold readBy at h
  split at h
  · cases h
  · split at h
    · cases h
    · exact h

/-- **A converter reads what it is picked for**: given that readings within the cell are right, a
converter that produces values for a slot reads one that fits it. -/
theorem isInstanceOf_of_readBy {k : Converter} (hk : k.produces target = true)
    (h : readBy a inner k target c = .ok v) : v.isInstanceOf target = true := by
  have hread := readForm_of_readBy h
  rcases Converter.produces_cases hk with
    ⟨hf, ht⟩ | ⟨hf, ht⟩ | ⟨hf, ht⟩ | ⟨hf, -⟩ | ⟨hf, ht⟩
  · rw [hf] at hread
    exact isInstanceOf_of_readArray hi ht hread
  · rw [hf] at hread
    exact isInstanceOf_of_readHandle ht hread
  · rw [hf] at hread
    cases hread
    exact isInstanceOf_cell ht c
  · rw [hf] at hread
    exact isInstanceOf_of_readObject hread
  · obtain ⟨t, hval, hn, -⟩ :=
      ConverterForm.valueType_of_ne_array (ConverterForm.ne_array_of_isPlain hf)
    have hv : v.type? = some (.plain t) := hval ▸ type?_of_readForm hf hread
    rw [Value.isInstanceOf_of_type? hv hn, ← hval]
    exact ht

omit hi in
/-- For an array type a converter reads a grid as an array and as nothing else. -/
theorem exists_array_of_readBy {k : Converter} {component : DeclType} {rows : List (List Cell)}
    (hk : k.produces (.array component) = true)
    (h : readBy a inner k (.array component) (.grid rows) = .ok v) : ∃ items, v = .array items := by
  have hread := readForm_of_readBy h
  rcases Converter.produces_cases hk with
    ⟨hf, -⟩ | ⟨-, ht⟩ | ⟨-, ht⟩ | ⟨hf, -⟩ | ⟨hf, ht⟩
  · rw [hf] at hread
    obtain ⟨items, -, rfl⟩ := map_eq_ok_iff.1 hread
    exact ⟨items, rfl⟩
  · cases ht
  · cases ht
  · rw [hf] at hread
    cases hread
  · obtain ⟨t, hval, -⟩ :=
      ConverterForm.valueType_of_ne_array (ConverterForm.ne_array_of_isPlain hf)
    rw [Converter.valueType, hval, DeclType.accepts_array_of_raw rfl] at ht
    cases ht

end Reading

namespace Registry

variable {a : Arena} {target : DeclType} {c : Cell} {v : Value}

/-! ## The registry's reading -/

/-- Readings are right however deep they nest. -/
theorem isTyped_readWithin (r : Registry) (a : Arena) (n : Nat) :
    Reading.IsTyped (r.readWithin a n) := by
  induction n with
  | zero =>
    intro t d w h
    cases h
  | succ n ih =>
    intro t d w h
    rw [readWithin_succ] at h
    obtain ⟨k, hk, h⟩ := bind_eq_ok_iff.1 h
    have hp := (of_reader?_eq_some (resolveKind_ok_iff.1 hk)).2.2
    exact Reading.isInstanceOf_of_readBy ih hp h

/-- The reading of a registry gives instances of the types it reads for. -/
theorem isTyped_read (r : Registry) (a : Arena) : Reading.IsTyped (r.read a) :=
  fun t d w h => isTyped_readWithin r a _ t d w h

/-- A converter that produces values for a slot reads one that fits it. -/
theorem isInstanceOf_of_readWith {r : Registry} {k : Converter} (hk : k.produces target = true)
    (h : r.readWith a k target c = .ok v) : v.isInstanceOf target = true :=
  Reading.isInstanceOf_of_readBy (isTyped_read r a) hk h

/-- A row read for an array type is an array. -/
theorem exists_array_of_readWith {r : Registry} {k : Converter} {component : DeclType}
    {cells : List Cell} (hk : k.produces (.array component) = true)
    (h : r.readWith a k (.array component) (Cell.row cells) = .ok v) :
    ∃ items, v = .array items := by
  obtain ⟨rows, hrows, -⟩ := Cell.isRectangular_row cells
  rw [hrows] at h
  exact Reading.exists_array_of_readBy hk h

/-- **What a registry reads for a declared type is an instance of it**, whatever the table, the
arena, the type and the cell. For an array type this reaches down to every element at every depth,
and no element of a primitive component is null. -/
theorem read_isInstanceOf (r : Registry) (a : Arena) (target : DeclType) (c : Cell) (v : Value)
    (h : r.read a target c = .ok v) :
    v.isInstanceOf target = true ∧
      ∀ n t, target.componentAt? n = some t → ∀ w ∈ v.atDepth n,
        w.isInstanceOf t = true ∧ (t.isPrimitive = true → w ≠ .null) := by
  have hv : v.isInstanceOf target = true := isTyped_read r a target c v h
  refine ⟨hv, fun n t ht w hw => ?_⟩
  have hwt : w.isInstanceOf t = true := Value.isInstanceOf_atDepth hv ht hw
  exact ⟨hwt, fun hp => Value.ne_null_of_isInstanceOf hwt hp⟩

/-- A ragged grid of truth values for an array of arrays. -/
theorem read_isInstanceOf_ragged :
    let target : DeclType := .array (.array (.plain (.primitive .boolean)))
    let rows : Cell := .grid [[.boolean true], [.boolean false, .boolean true]]
    let v : Value := .array [.array [.boolean true], .array [.boolean false, .boolean true]]
    (stock .column).read {} target rows = .ok v ∧ v.isInstanceOf target = true ∧
      ∀ w ∈ v.atDepth 2, w ≠ .null := by
  intro target rows v
  have h : (stock .column).read {} target rows = .ok v := rfl
  have hv := read_isInstanceOf _ _ _ _ _ h
  exact ⟨h, hv.1, fun w hw => (hv.2 2 (.plain (.primitive .boolean)) rfl w hw).2 rfl⟩

end Registry

end CellMarshal
