import CellMarshal.Proofs.Registry.Edits

/-!
# Written and read by the same converter

A converter is picked in two ways. For writing, the levels of a declared type are walked, and each
is looked up among all converters; for reading, the converters of one kind of cell are looked
through for one whose values the slot can hold. Where the declared type is closed, that is, says by
itself how its values are written, both ways lead to the same converter: the one that writes a value
is picked again for the kind of cell that it writes.

The reason is that few converters come into question. Those that produce values for a closed type
either follow references, and then use references, or are registered under one type
(`DeclType.formType`), and then use any other kind of cell. So the kind tells which of the two a
converter is, and with it the level that the converter serves. Main statements:
`produces_iff_of_isClosed`, `produces_of_serves`, `valueType_eq_of_kind_eq`, and
`resolveKind_of_resolveFor`.
-/

namespace CellMarshal

/-! ## Closed types -/

/-- A declared type that says by itself how its values are written: it is not open, and its values
are neither references nor cells. -/
structure DeclType.IsClosed (t : DeclType) : Prop where
  isOpen_eq : t.isOpen = false
  isVoid_eq : t.isVoid = false
  isHandle_eq : t.isHandle = false
  isCell_eq : t.isCell = false

namespace RawType

/-- A class that is not primitive is its own box. -/
theorem box_of_isPrimitive_eq_false {t : RawType} (h : t.isPrimitive = false) : t.box = t := by
  cases t with
  | primitive p => cases h
  | _ => rfl

/-- Above a class there are only its box and the classes that several others have in common. -/
theorem eq_of_mem_lineage {s t : RawType} (h : s ∈ t.lineage) :
    s = t ∨ s = t.box ∨ s = number ∨ s = collection ∨ s = object := by
  cases t <;> grind [lineage, boxLineage, box]

/-- A class that no two others have in common takes values of its box alone. -/
theorem accepts_iff_eq_box {s t : RawType} (hs : s.isPrimitive = false) (hv : t ≠ void)
    (hn : t ≠ number) (hc : t ≠ collection) (ho : t ≠ object) :
    t.accepts s = true ↔ s = t.box := by
  cases hp : t.isPrimitive with
  | true =>
    cases t with
    | primitive p =>
      rw [accepts_primitive_iff]
      show s = primitive p ∨ s = boxed p ↔ s = boxed p
      refine ⟨fun h => h.resolve_left ?_, Or.inr⟩
      rintro rfl
      cases hs
    | _ => cases hp
  | false =>
    rw [accepts_iff_mem_lineage hp hv, box_of_isPrimitive_eq_false hp]
    constructor
    · intro h
      have hcases := eq_of_mem_lineage h
      rw [box_of_isPrimitive_eq_false hs] at hcases
      simp only [hn, hc, ho, or_false, or_self] at hcases
      exact hcases.symm
    · rintro rfl
      exact mem_lineage_self s

end RawType

namespace DeclType

/-- The type that the converters for a closed type are registered under, apart from those that
follow references: the box of its class, or the array of objects. -/
def formType (t : DeclType) : DeclType :=
  match t.raw? with
  | none => .array .object
  | some s => .plain s.box

variable {t : DeclType}

/-- The converters for a closed type that is no array are registered under the box of its class. -/
theorem formType_of_raw {s : RawType} (h : t.raw? = some s) : t.formType = .plain s.box := by
  rw [formType, h]

/-- The class of a closed type is none that several others have in common. -/
theorem IsClosed.raw_ne (ht : t.IsClosed) {s : RawType} (h : t.raw? = some s) :
    s ≠ .void ∧ s ≠ .number ∧ s ≠ .collection ∧ s ≠ .object ∧ s ≠ .handle ∧ s ≠ .cell := by
  obtain ⟨hopen, hvoid, hhandle, hcell⟩ := ht
  simp only [isOpen, isVoid, isHandle, isCell, isOf, h] at hopen hvoid hhandle hcell
  refine ⟨?_, ?_, ?_, ?_, ?_, ?_⟩ <;> rintro rfl <;> simp_all

/-- No closed type is one of those that forms for references, cells and objects are registered
under. -/
theorem IsClosed.formType_ne (ht : t.IsClosed) :
    t.formType ≠ .plain .handle ∧ t.formType ≠ .plain .cell := by
  cases hr : t.raw? with
  | none =>
    rw [formType, hr]
    exact ⟨by simp, by simp⟩
  | some s =>
    obtain ⟨-, -, -, -, hhandle, hcell⟩ := ht.raw_ne hr
    rw [formType_of_raw hr]
    cases s <;> simp_all [RawType.box]

/-- The levels of an array are its erasure and the object type; those of any other type are plain.
-/
theorem mem_lineage_cases {level : DeclType} (h : level ∈ t.lineage) :
    (∃ c, t = array c ∧ (level = (array c).erased ∨ level = object)) ∨
      ∃ s u, t.raw? = some s ∧ level = plain u ∧ u ∈ s.lineage := by
  cases t with
  | array c =>
    refine Or.inl ⟨c, rfl, ?_⟩
    simpa [lineage] using h
  | plain s =>
    obtain ⟨u, hu, rfl⟩ := List.mem_map.1 h
    exact Or.inr ⟨s, u, rfl, rfl, hu⟩
  | generic s args =>
    obtain ⟨u, hu, rfl⟩ := List.mem_map.1 h
    exact Or.inr ⟨s, u, rfl, rfl, hu⟩

end DeclType

/-! ## Forms -/

namespace ConverterForm

variable {f : ConverterForm}

/-- Arrays alone are registered under an array type. -/
theorem eq_array_of_valueType_eq {f' : ConverterForm} (h : f.valueType = f'.valueType)
    (hf : f = .array) : f' = .array := by
  apply Decidable.byContradiction
  intro ha
  obtain ⟨s, hs, -⟩ := valueType_of_ne_array ha
  rw [hf, hs] at h
  cases h

/-- The forms for references are those for references and objects, and the one for cells. -/
theorem eq_of_supports_reference (h : f.supports .reference = true) :
    f = .handle ∨ f = .objectHandle ∨ f = .cell := by
  cases f with
  | handle => exact Or.inl rfl
  | objectHandle => exact Or.inr (Or.inl rfl)
  | cell => exact Or.inr (Or.inr rfl)
  | numeric p =>
    unfold supports at h
    rw [Bool.and_eq_true] at h
    cases h.2
  | _ => cases h

end ConverterForm

namespace Converter

variable {k k' : Converter} {t : DeclType}

/-- Values for a type of cells are produced by handing cells on, and in no other way. -/
theorem form_eq_cell_of_produces (ht : t.isCell = true) (hp : k.produces t = true) :
    k.form = .cell := by
  have hraw : t.raw? = some .cell := DeclType.raw?_of_isCell ht
  rcases produces_cases hp with ⟨-, h⟩ | ⟨-, h⟩ | ⟨hf, -⟩ | ⟨-, h⟩ | ⟨hplain, h⟩
  · have harray : t.isArray = false := by
      cases t with
      | array c => cases hraw
      | _ => rfl
    simp [harray, DeclType.isObject, DeclType.isOf, hraw] at h
  · simp [DeclType.isHandle, DeclType.isOf, hraw] at h
  · exact hf
  · simp [ht] at h
  · obtain ⟨s, hs, -, hprim, -⟩ :=
      ConverterForm.valueType_of_ne_array (ConverterForm.ne_array_of_isPlain hplain)
    rw [valueType, hs, DeclType.accepts_raw_raw hraw rfl] at h
    have hcell : s = RawType.cell.box :=
      (RawType.accepts_iff_eq_box hprim (by simp) (by simp) (by simp) (by simp)).1 h
    rw [hcell] at hs
    cases hf : k.form <;> simp [hf, ConverterForm.valueType, ConverterForm.isPlain, DeclType.object,
      RawType.box] at hs hplain

/-! ## Which converters come into question -/

/-- A form for the values of one class produces those for a closed type where this is its class. -/
theorem produces_iff_of_isPlain (ht : t.IsClosed) (hp : k.form.isPlain = true) :
    k.produces t = true ↔ k.valueType = t.formType := by
  obtain ⟨s, hs, -, hprim, -⟩ :=
    ConverterForm.valueType_of_ne_array (ConverterForm.ne_array_of_isPlain hp)
  rw [produces_of_plain hp, valueType, hs]
  cases hr : t.raw? with
  | none =>
    obtain ⟨c, rfl⟩ := DeclType.raw?_eq_none_iff.1 hr
    rw [DeclType.accepts_array_of_raw rfl]
    exact iff_of_false Bool.false_ne_true (by rintro ⟨⟩)
  | some u =>
    obtain ⟨hvoid, hnumber, hcollection, hobject, -⟩ := ht.raw_ne hr
    rw [DeclType.accepts_raw_raw hr rfl, DeclType.formType_of_raw hr, DeclType.plain.injEq]
    exact RawType.accepts_iff_eq_box hprim hvoid hnumber hcollection hobject

/-- The form for arrays produces values for array types, and for no other closed type. -/
theorem produces_iff_of_array (ht : t.IsClosed) (ha : k.form = .array) :
    k.produces t = true ↔ k.valueType = t.formType := by
  rw [produces_of_array ha, valueType, ha]
  cases hr : t.raw? with
  | none =>
    obtain ⟨c, rfl⟩ := DeclType.raw?_eq_none_iff.1 hr
    exact iff_of_true rfl rfl
  | some s =>
    have hobj : t.isObject = false := by
      have hne := (ht.raw_ne hr).2.2.2.1
      simp [DeclType.isObject, DeclType.isOf, hr, hne]
    have harr : t.isArray = false := by
      cases t with
      | array c => cases hr
      | _ => rfl
    rw [hobj, harr, DeclType.formType_of_raw hr]
    exact iff_of_false Bool.false_ne_true (by rintro ⟨⟩)

/-- Values for a closed type are produced under its one type, or by following references. -/
theorem produces_iff_of_isClosed (ht : t.IsClosed) (ho : k.form ≠ .objectHandle) :
    k.produces t = true ↔ k.valueType = t.formType := by
  obtain ⟨hnehandle, hnecell⟩ := ht.formType_ne
  cases hp : k.form.isPlain with
  | true => exact produces_iff_of_isPlain ht hp
  | false =>
    rcases ConverterForm.eq_of_isPlain_eq_false hp with ha | hh | hc | hobj
    · exact produces_iff_of_array ht ha
    · rw [produces_of_handle hh, ht.isHandle_eq, valueType, hh]
      exact iff_of_false Bool.false_ne_true hnehandle.symm
    · rw [produces_of_cell hc, ht.isCell_eq, valueType, hc]
      exact iff_of_false Bool.false_ne_true hnecell.symm
    · exact absurd hobj ho

/-- A converter that follows references produces values for every closed type. -/
theorem produces_of_objectHandle_of_isClosed (ht : t.IsClosed) (ho : k.form = .objectHandle) :
    k.produces t = true := by
  rw [produces_of_objectHandle ho, ht.isVoid_eq, ht.isHandle_eq, ht.isCell_eq]
  rfl

/-- A converter that serves some level of a closed type produces values for it. -/
theorem produces_of_serves (ht : t.IsClosed) {level : DeclType} (hl : level ∈ t.lineage)
    (hs : k.serves level = true) : k.produces t = true := by
  by_cases ho : k.form = .objectHandle
  · exact produces_of_objectHandle_of_isClosed ht ho
  apply (produces_iff_of_isClosed ht ho).2
  by_cases ha : k.form = .array
  · rw [serves_of_array ha] at hs
    rcases DeclType.mem_lineage_cases hl with ⟨c, rfl, -⟩ | ⟨s, u, -, rfl, -⟩
    · rw [valueType, ha]
      rfl
    · cases hs
  · obtain ⟨s, hval, -, hprim, hn, hc, hobj⟩ := ConverterForm.valueType_of_ne_array ha
    rw [serves_of_ne_array ha, valueType, hval, beq_iff_eq] at hs
    rw [valueType, hval]
    rcases DeclType.mem_lineage_cases hl with ⟨c, rfl, rfl | rfl⟩ | ⟨u, w, hr, rfl, hw⟩
    · rw [DeclType.erased_erased] at hs
      cases hs
    · cases hs
      exact absurd (hobj rfl) ho
    · cases hs
      rw [DeclType.formType_of_raw hr]
      rcases RawType.eq_of_mem_lineage hw with rfl | hbox | h | h | h
      · rw [RawType.box_of_isPrimitive_eq_false hprim]
      · rw [← hbox]
      · exact absurd h hn
      · exact absurd h hc
      · exact absurd (hobj h) ho

/-- What a converter serves depends on the type that it is registered under. -/
theorem serves_congr (h : k.valueType = k'.valueType) (level : DeclType) :
    k.serves level = k'.serves level := by
  by_cases ha : k.form = .array
  · have ha' : k'.form = .array := ConverterForm.eq_array_of_valueType_eq h ha
    rw [serves_of_array ha, serves_of_array ha']
  · have ha' : k'.form ≠ .array := fun ha' => ha (ConverterForm.eq_array_of_valueType_eq h.symm ha')
    rw [serves_of_ne_array ha, serves_of_ne_array ha', h]

/-- Values for a closed type are neither references nor cells, taken as they are. -/
theorem form_ne_of_produces (ht : t.IsClosed) (hp : k.produces t = true) :
    k.form ≠ .handle ∧ k.form ≠ .cell := by
  constructor
  · intro hf
    rw [produces_of_handle hf, ht.isHandle_eq] at hp
    exact Bool.false_ne_true hp
  · intro hf
    rw [produces_of_cell hf, ht.isCell_eq] at hp
    exact Bool.false_ne_true hp

/-- Of the converters that produce values for a closed type, those that use references follow them.
-/
theorem kind_eq_reference_iff (ht : t.IsClosed) (hk : k.form.supports k.kind = true)
    (hp : k.produces t = true) : k.kind = .reference ↔ k.form = .objectHandle := by
  obtain ⟨hhandle, hcell⟩ := form_ne_of_produces ht hp
  constructor
  · intro hkind
    rw [hkind] at hk
    rcases ConverterForm.eq_of_supports_reference hk with hf | hf | hf
    · exact absurd hf hhandle
    · exact hf
    · exact absurd hf hcell
  · intro hf
    rw [hf] at hk
    simpa [ConverterForm.supports] using hk

/-- **The kind of cell tells the type**: converters that produce values for a closed type and use
the same kind of cell are registered under the same type. -/
theorem valueType_eq_of_kind_eq (ht : t.IsClosed) (hk : k.form.supports k.kind = true)
    (hk' : k'.form.supports k'.kind = true) (hp : k.produces t = true) (hp' : k'.produces t = true)
    (h : k.kind = k'.kind) : k.valueType = k'.valueType := by
  by_cases ho : k.form = .objectHandle
  · have hkind : k'.kind = .reference := by rw [← h, (kind_eq_reference_iff ht hk hp).2 ho]
    have ho' : k'.form = .objectHandle := (kind_eq_reference_iff ht hk' hp').1 hkind
    rw [valueType, valueType, ho, ho']
  · have ho' : k'.form ≠ .objectHandle := by
      intro ho'
      apply ho
      apply (kind_eq_reference_iff ht hk hp).1
      rw [h, (kind_eq_reference_iff ht hk' hp').2 ho']
    rw [(produces_iff_of_isClosed ht ho).1 hp, (produces_iff_of_isClosed ht ho').1 hp']

/-- A converter that produces values for a closed type reads no kind of cell but its own. -/
theorem kind_eq_of_reads (ht : t.IsClosed) (hp : k.produces t = true) {kind : CellKind}
    (hr : k.reads kind = true) : k.kind = kind := by
  obtain ⟨hhandle, hcell⟩ := form_ne_of_produces ht hp
  rcases reads_iff.1 hr with hf | hkind | ⟨-, hnull⟩
  · exact absurd hf hcell
  · exact hkind
  · exfalso
    unfold toleratesNull ConverterForm.toleratesNull at hnull
    split at hnull
    · exact hhandle ‹_›
    · exact hcell ‹_›
    · cases hnull

end Converter

namespace Registry

variable {r : Registry} {t : DeclType} {hint : Option CellKind} {c : Converter}

/-! ## Both ways of picking -/

/-- The first item to pass a test is the first to pass a stricter one, provided that it does. -/
theorem find?_of_stricter {α : Type} {p q : α → Bool} {xs : List α} {x : α}
    (h : xs.find? p = some x) (hx : q x = true) (hq : ∀ y ∈ xs, q y = true → p y = true) :
    xs.find? q = some x := by
  obtain ⟨hpx, before, after, rfl, hbefore⟩ := List.find?_eq_some_iff_append.1 h
  refine List.find?_eq_some_iff_append.2 ⟨hx, before, after, rfl, ?_⟩
  intro y hy
  have hpy := hbefore y hy
  cases hqy : q y with
  | false => rfl
  | true =>
    rw [hq y (List.mem_append_left _ hy) hqy] at hpy
    cases hpy

/-- The converter for a type is found at one of its levels, with the hint or without it. -/
theorem exists_server?_of_writer? (h : r.writer? t hint = some c) :
    ∃ used level, level ∈ t.lineage ∧ r.server? used level = some c := by
  have hwalk : ∃ used, r.walk used t.lineage = some c := by
    unfold writer? at h
    cases hint with
    | none => exact ⟨none, h⟩
    | some kind =>
      rcases Option.or_eq_some_iff.1 h with h | ⟨-, h⟩
      · exact ⟨some kind, h⟩
      · exact ⟨none, h⟩
  obtain ⟨used, hused⟩ := hwalk
  obtain ⟨level, hl, hserver⟩ := List.exists_of_findSome?_eq_some hused
  exact ⟨used, level, hl, hserver⟩

/-- In a registry whose converters support their kinds, the converter picked for writing a closed
type is the first that reads the kind of cell that it writes. -/
theorem reader?_of_writer? (hr : ∀ k ∈ r.ranked, k.form.supports k.kind = true) (ht : t.IsClosed)
    (h : r.writer? t hint = some c) : r.reader? t c.kind = some c := by
  obtain ⟨used, level, hl, hserver⟩ := exists_server?_of_writer? h
  obtain ⟨hmem, hserves, -⟩ := of_server?_eq_some hserver
  have htest := List.find?_some hserver
  have hproduces : c.produces t = true := Converter.produces_of_serves ht hl hserves
  rw [reader?_eq_find?]
  refine find?_of_stricter hserver ?_ ?_
  · rw [Converter.reads_self, hproduces]
    rfl
  · intro k hk hreader
    rw [Bool.and_eq_true] at hreader
    have hkind : k.kind = c.kind := Converter.kind_eq_of_reads ht hreader.2 hreader.1
    have htype : k.valueType = c.valueType :=
      Converter.valueType_eq_of_kind_eq ht (hr k hk) (hr c hmem) hreader.2 hproduces hkind
    rw [Converter.serves_congr htype, hkind]
    exact htest

/-- **The converter that writes a declared value is the one that reads what it wrote**: in every
registry reached by edits, from no converters or from the stock table, the converter picked for
writing a closed type, with whatever hint, is picked again for the kind of cell that it writes. -/
theorem resolveKind_of_resolveFor (start : Draft) (hs : start = {} ∨ start = .ofStock)
    (edits : List Draft.Edit) (t : DeclType) (ht : t.IsClosed) (hint : Option CellKind)
    (c : Converter) (h : (start.editAll edits).build.resolveFor t hint = .ok c) :
    (start.editAll edits).build.resolveKind t c.kind = .ok c := by
  have hchecked : (start.editAll edits).IsChecked := Draft.isChecked_of_start hs edits
  apply resolveKind_of_some
  refine reader?_of_writer? ?_ ht (resolveFor_ok_iff.1 h)
  intro k hk
  exact hchecked.supports k (Draft.mem_ranked_build.1 hk)

/-- A table in which a converter was replaced by one of a lower priority, after a try that was
rejected. -/
theorem resolveKind_of_resolveFor_replaced :
    let edits : List Draft.Edit :=
      [.register ⟨.numeric .double, .integer, 6⟩, .remove (.numeric .double) .number,
        .register ⟨.numeric .double, .number, -3⟩]
    let r := (Draft.ofStock.editAll edits).build
    let double : DeclType := .plain (.primitive .double)
    r.resolveFor double none = .ok ⟨.numeric .double, .integer, 6⟩ ∧
      r.resolveFor double (some .number) = .ok ⟨.numeric .double, .number, -3⟩ ∧
      r.resolveKind double .number = .ok ⟨.numeric .double, .number, -3⟩ := by
  intro edits r double
  have hhint : r.resolveFor double (some .number) = .ok ⟨.numeric .double, .number, -3⟩ := rfl
  refine ⟨rfl, hhint, ?_⟩
  exact resolveKind_of_resolveFor .ofStock (Or.inr rfl) edits double ⟨rfl, rfl, rfl, rfl⟩ _ _ hhint

end Registry

end CellMarshal
