import CellMarshal.Proofs.Binding.Fitting
import CellMarshal.Proofs.Binding.Reuse
import CellMarshal.Proofs.Registry.Edits
import CellMarshal.Proofs.Traversal

/-!
# The further arguments of variadic members

The arguments of a variadic member that come after its fixed ones are bound to one array. Where the
component is a container each of them is read on its own, and otherwise they are laid out as a row
and read as an array. Both ways come to the same: every argument is read for the component as a cell
of a grid is (`bindTail_eq_mapM`). The exception is a single missing argument, since the row that it
makes is also how an array without elements is written.

Main statements: `form_eq_array_of_reader?` (what arrays are read by), `bindTail_eq_mapM`,
`bindTail_of_missing` (a missing argument for a primitive component) and `bindArgs_variadic`.
-/

namespace CellMarshal

/-! ## What arrays are read by -/

namespace Registry

variable {r : Registry} {component : DeclType} {k : Converter}

/-- A grid is read for an array by a converter for arrays, provided that every converter supports
its kind of cell. -/
theorem form_eq_array_of_reader? (hr : ∀ k ∈ r.ranked, k.form.supports k.kind = true)
    (hk : r.reader? (.array component) .grid = some k) : k.form = .array := by
  obtain ⟨hmem, hreads, hp⟩ := of_reader?_eq_some hk
  rcases Converter.produces_cases hp with ⟨hf, -⟩ | ⟨-, h⟩ | ⟨-, h⟩ | ⟨hf, -⟩ | ⟨hplain, h⟩
  · exact hf
  · cases h
  · cases h
  · -- Objects are read from references, and the converter reads grids.
    have hkind : k.kind = .grid :=
      Converter.kind_eq_of_reads_of_ne (by simp [hf]) hreads (by simp)
    have hsupports := hr k hmem
    rw [hf, hkind] at hsupports
    cases hsupports
  · obtain ⟨s, hs, -⟩ :=
      ConverterForm.valueType_of_ne_array (ConverterForm.ne_array_of_isPlain hplain)
    rw [Converter.valueType, hs, DeclType.accepts_array_of_raw rfl] at h
    cases h

end Registry

/-! ## One further argument -/

open Reading

/-- The value that one further argument comes to for a component: what is read, and for a missing
argument no value, or the missing cell itself where cells are declared. -/
inductive Registry.Trails (r : Registry) (a : Arena) (component : DeclType) : Cell → Value → Prop
  | present {c : Cell} {v : Value} (hc : c ≠ .missing) (h : r.read a component c = .ok v) :
    Trails r a component c v
  | absent (h : component.isCell = false) : Trails r a component .missing .null
  | missing (h : component.isCell = true) : Trails r a component .missing (.cell .missing)

namespace Registry

variable {r : Registry} {a : Arena} {component : DeclType} {c : Cell} {v : Value}

/-- Whatever is read for a type of cells is the cell itself. -/
theorem eq_cell_of_read (ht : component.isCell = true) (h : r.read a component c = .ok v) :
    v = .cell c := by
  rw [read_eq] at h
  obtain ⟨k, hk, h⟩ := bind_eq_ok_iff.1 h
  obtain ⟨-, -, hp⟩ := of_reader?_eq_some (resolveKind_ok_iff.1 hk)
  have hf : k.form = .cell := Converter.form_eq_cell_of_produces ht hp
  have hread : r.readWith a k component c = .ok (.cell c) := by
    simp [readWith, readBy, readForm, Converter.toleratesNull, ConverterForm.toleratesNull,
      Converter.reads, hf]
  rw [hread] at h
  cases h
  rfl

/-- What is read as a cell of a grid is what a further argument comes to. -/
theorem trails_of_readElement (h : readElement (r.read a) component c = .ok v) :
    r.Trails a component c v := by
  unfold readElement at h
  by_cases hc : c = .missing
  · subst hc
    cases ht : component.isCell with
    | true =>
      rw [if_neg (by simp [ht])] at h
      rw [eq_cell_of_read ht h]
      exact .missing ht
    | false =>
      rw [if_pos (by simp [ht])] at h
      split at h
      · cases h
      · cases h
        exact .absent ht
  · rw [if_neg (by simp [hc])] at h
    exact .present hc h

end Registry

/-- A slot for further arguments that reads them as an array of a component. -/
structure VarargSlot.ReadsArray (component : DeclType) (va : VarargSlot) : Prop where
  arrayType_eq : va.arrayType = .array component
  form_eq : va.converter.form = .array
  kind_eq : va.converter.kind = .grid

/-- A missing cell cannot be read for a primitive type. -/
theorem Reading.readElement_missing_of_isPrimitive (inner : Inner) {elem : DeclType}
    (h : elem.isPrimitive = true) :
    readElement inner elem .missing =
      .error (.nullArgument ("empty cell for " ++ elem.display ++ " element")) := by
  simp [readElement, DeclType.isCell_of_isPrimitive h, h]

/-! ## All further arguments -/

namespace Binding

variable {σ : Type} {b : Binding σ} {va : VarargSlot} {component : DeclType}

/-- A container is read from a further argument as it is from a cell of a grid. -/
theorem bindTrailing_eq_readElement (b : Binding σ) (a : Arena) (h : component.isContainer = true)
    (c : Cell) : b.bindTrailing a component c = readElement (b.registry.read a) component c := by
  simp only [bindTrailing, readElement, DeclType.isCell_of_isContainer h,
    DeclType.isPrimitive_of_isContainer h, Bool.not_false, Bool.and_true, Bool.false_eq_true,
    if_false]

/-- A row of cells is the grid that stands for no elements only where there are none, or a missing
one alone. -/
theorem readItems_row (inner : Inner) (hcontainer : component.isContainer = false)
    {cells : List Cell} (hcells : cells ≠ [.missing]) :
    readItems inner (.array component) (Cell.row cells) =
      cells.mapM (readElement inner component) := by
  cases cells with
  | nil => rfl
  | cons c cells =>
    have hfull : (Cell.grid [c :: cells]).isEmptyGrid = false := by
      rw [Bool.eq_false_iff]
      intro hempty
      have := Cell.eq_emptyGrid_of_isEmptyGrid hempty
      simp only [Cell.emptyGrid, Cell.grid.injEq, List.cons.injEq, and_true] at this
      exact hcells (by rw [this.1, this.2])
    have helem : elementType (.array component) = component := rfl
    rw [Cell.row_cons, readItems, hfull, helem, hcontainer]
    simp only [Bool.false_eq_true, if_false, List.flatten_singleton]

/-- **Both ways of binding further arguments come to one.** Each argument is read for the component
as a cell of a grid is, unless there is one argument only, it is missing, and the component is no
container. -/
theorem bindTail_eq_mapM (hva : va.ReadsArray component) {tail : List Cell}
    (htail : component.isContainer = true ∨ tail ≠ [.missing]) (a : Arena) :
    b.bindTail a va tail =
      (tail.mapM (readElement (b.registry.read a) component)).map .array := by
  obtain ⟨hva, hf, hk⟩ := hva
  have helem : va.arrayType.element? = some component := by
    rw [hva]
    rfl
  cases hcontainer : component.isContainer with
  | true =>
    rw [bindTail_of_container b a helem hcontainer,
      Reading.mapM_congr fun c _ => bindTrailing_eq_readElement b a hcontainer c]
  | false =>
    have hmissing : tail ≠ [.missing] := htail.resolve_left (by simp [hcontainer])
    obtain ⟨rows, hrows, -⟩ := Cell.isRectangular_row tail
    have hreads : va.converter.reads .grid = true := by rw [← hk, Converter.reads_self]
    calc b.bindTail a va tail
        = readBy a (b.registry.read a) va.converter (.array component) (Cell.row tail) := by
          rw [bindTail_of_row b a helem hcontainer, hva]
          rfl
      _ = readArray (b.registry.read a) (.array component) (Cell.row tail) := by
          simp [hrows, readBy, readForm, hf, Cell.isMissing, Cell.kind, hreads]
      _ = (tail.mapM (readElement (b.registry.read a) component)).map .array := by
          rw [readArray, if_pos (by rfl), readItems_row _ hcontainer hmissing]

/-- A missing argument among further ones for a primitive component fails, unless an argument before
it does. -/
theorem bindTail_of_missing (hva : va.ReadsArray component)
    (hprimitive : component.isPrimitive = true) {before after : List Cell}
    (htail : component.isContainer = true ∨ before ++ .missing :: after ≠ [.missing]) (a : Arena) :
    ∃ f, b.bindTail a va (before ++ .missing :: after) = .error f ∧
      (f = .nullArgument ("empty cell for " ++ component.display ++ " element") ∨
        ∃ c ∈ before, c ≠ .missing ∧ b.registry.read a component c = .error f) := by
  have hmissing := readElement_missing_of_isPrimitive (b.registry.read a) hprimitive
  obtain ⟨f, hfail, hcause⟩ := exists_mapM_append_eq_error hmissing before after
  refine ⟨f, ?_, ?_⟩
  · rw [bindTail_eq_mapM hva htail a, hfail]
    rfl
  · rcases hcause with rfl | ⟨c, hc, hread⟩
    · exact Or.inl rfl
    · by_cases hcm : c = .missing
      · rw [hcm, hmissing] at hread
        cases hread
        exact Or.inl rfl
      · rw [readElement, if_neg (by simp [hcm])] at hread
        exact Or.inr ⟨c, hc, hcm, hread⟩

/-- All arguments, where there are further ones. -/
theorem bindArgs_of_varargs (hva : b.varargs = some va) {args : List Cell}
    (hl : b.params.length ≤ args.length) (a : Arena) :
    b.bindArgs a args =
      (b.bindFixed a 0 b.params args >>= fun fixed =>
        b.bindTail a va (args.drop b.params.length) >>= fun rest => pure (fixed ++ [rest])) := by
  have hfits : b.fitsArity args.length = true := by simp [fitsArity, hva, hl]
  simp only [bindArgs, hfits, if_true, hva]

end Binding

namespace Binder

variable {σ : Type} {binder : Binder} {cls : ClassDef σ} {m : Member σ} {kinds : List CellKind}
  {bound : Binding σ} {component : DeclType}

/-- Where all converters support their kinds of cell, the further arguments of a variadic member are
read as an array of its component. -/
theorem exists_readsArray_of_bind?
    (hr : ∀ k ∈ binder.registry.ranked, k.form.supports k.kind = true)
    (hm : m.vararg? = some (.array component)) (hb : binder.bind? cls m kinds = some bound) :
    ∃ va, bound.varargs = some va ∧ va.ReadsArray component := by
  obtain ⟨rest, slots, va, scores, -, -, -, htail, rfl⟩ := bind?_eq_some_iff.1 hb
  rcases tail?_cases htail with ⟨hnone, -⟩ | ⟨v, hv, rfl, hk⟩
  · rw [hm] at hnone
    cases hnone
  · have harr : v.arrayType = .array component := by simpa [hm] using hv.symm
    rw [harr] at hk
    have hf := Registry.form_eq_array_of_reader? hr hk
    obtain ⟨-, hreads, -⟩ := Registry.of_reader?_eq_some hk
    exact ⟨v, rfl, harr, hf, Converter.kind_eq_of_reads_of_ne (by simp [hf]) hreads (by simp)⟩

end Binder

/-! ## Variadic members -/

namespace Binding

variable {σ : Type}

/-- **The further arguments of a variadic member become an array of as many elements.** This holds
in every registry that is reached by edits from no converters or from the stock table, for every
member of a class that was built, and whatever the kinds were that the member was bound for; a
single missing argument is left out, unless it is for a container. Each element is what its argument
is read as for the component, no value for a missing one, and the missing cell itself where cells
are declared. For a primitive component a missing argument always fails, and does so as a missing
value unless a fixed argument or one before it fails. -/
theorem bindArgs_variadic {start : Registry.Draft} (hs : start = {} ∨ start = .ofStock)
    (edits : List Registry.Draft.Edit) (guarded : Bool) (d : ClassDraft σ) (cls : ClassDef σ)
    (hd : d.build = .ok cls) (m : Member σ) (hm : m ∈ cls.constructors ++ cls.methods)
    (hvariadic : m.isVariadic = true) (kinds : List CellKind) (bound : Binding σ)
    (hb : ({ registry := (start.editAll edits).build, guarded } : Binder).bind? cls m kinds =
      some bound) :
    ∃ component, m.vararg? = some (.array component) ∧
      ∀ (a : Arena) (args : List Cell), m.fixedParams.length ≤ args.length →
        (component.isContainer = true ∨ args.drop m.fixedParams.length ≠ [.missing]) →
          (∀ values, bound.bindArgs a args = .ok values →
            ∃ fixed items, values = fixed ++ [.array items] ∧
              fixed.length = m.fixedParams.length ∧
              List.Forall₂ ((start.editAll edits).build.Trails a component)
                (args.drop m.fixedParams.length) items) ∧
          (component.isPrimitive = true → ∀ before after,
            args.drop m.fixedParams.length = before ++ .missing :: after →
              ∃ f, bound.bindArgs a args = .error f ∧
                (f = .nullArgument ("empty cell for " ++ component.display ++ " element") ∨
                  bound.bindFixed a 0 bound.params args = .error f ∨
                  ∃ c ∈ before, c ≠ .missing ∧
                    (start.editAll edits).build.read a component c = .error f)) := by
  obtain ⟨component, hcomponent⟩ := Member.exists_vararg?_eq_array hd hm hvariadic
  have hchecked := Registry.Draft.isChecked_of_start hs edits
  have hr : ∀ k ∈ (start.editAll edits).build.ranked, k.form.supports k.kind = true :=
    fun k hk => hchecked.supports k (Registry.Draft.mem_ranked_build.1 hk)
  have hfor := Binder.isFor_of_bind? hb
  have hlength : m.fixedParams.length = bound.params.length := hfor.params.length_eq
  have hregistry : bound.registry = (start.editAll edits).build := (Binder.target_of_bind? hb).2
  obtain ⟨va, hva, hreads⟩ := Binder.exists_readsArray_of_bind? hr hcomponent hb
  refine ⟨component, hcomponent, fun a args hl htail => ⟨fun values h => ?_, ?_⟩⟩
  · rw [hlength] at hl htail ⊢
    rw [bindArgs_of_varargs hva hl, bindTail_eq_mapM hreads htail] at h
    obtain ⟨fixed, hfixed, h⟩ := bind_eq_ok_iff.1 h
    obtain ⟨rest, hrest, h⟩ := bind_eq_ok_iff.1 h
    obtain ⟨items, hitems, rfl⟩ := map_eq_ok_iff.1 hrest
    cases h
    rw [hregistry] at hitems
    refine ⟨fixed, items, rfl, ?_, ?_⟩
    · rw [← hlength, (forall₂_of_bindFixed hfor.params hl hfixed).length_eq]
    · exact (mapM_eq_ok_iff.1 hitems).imp fun _ _ => Registry.trails_of_readElement
  · intro hprimitive before after hsplit
    rw [hsplit] at htail
    rw [hlength] at hl hsplit
    rw [bindArgs_of_varargs hva hl, hsplit, ← hregistry]
    cases hfixed : bound.bindFixed a 0 bound.params args with
    | error f => exact ⟨f, rfl, Or.inr (Or.inl rfl)⟩
    | ok fixed =>
      obtain ⟨f, hfail, hcause⟩ := bindTail_of_missing hreads hprimitive htail a
      refine ⟨f, ?_, hcause.imp_right Or.inr⟩
      rw [hfail]
      rfl

/-- A method for any number of truth values, bound for one: two of them make an array of two, and a
missing one after the first is reported as missing. -/
theorem bindArgs_variadic_flags :
    let note : Member Unit :=
      { name := "note"
        params := [.array (.plain (.primitive .boolean))]
        result := .plain (.primitive .boolean)
        isStatic := true
        isVariadic := true
        body := fun _ _ => pure (.value (.boolean true)) }
    let draft : ClassDraft Unit := { name := "Panel", methods := [note] }
    ∃ cls bound, draft.build = .ok cls ∧
      ({ registry := Registry.Draft.ofStock.build } : Binder).bind? cls note [.boolean] =
        some bound ∧
      (∃ items, bound.bindArgs {} [.boolean true, .boolean false] = .ok [.array items] ∧
        List.Forall₂
          (Registry.Draft.ofStock.build.Trails {} (.plain (.primitive .boolean)))
          [.boolean true, .boolean false] items) ∧
      ∃ f, bound.bindArgs {} [.boolean true, .missing] = .error f ∧
        f = .nullArgument "empty cell for boolean element" := by
  intro note draft
  obtain ⟨component, hcomponent, hbound⟩ := bindArgs_variadic (Or.inr rfl) [] true draft _ rfl
    note (List.mem_singleton.2 rfl) rfl [.boolean] _ rfl
  cases hcomponent
  have hnone : note.fixedParams.length = 0 := rfl
  refine ⟨_, _, rfl, rfl, ?_, ?_⟩
  · obtain ⟨fixed, items, hvalues, hfixed, htrails⟩ := (hbound {} [.boolean true, .boolean false]
      (by simp [hnone]) (Or.inr (by simp [hnone]))).1 _ rfl
    obtain rfl := List.eq_nil_of_length_eq_zero hfixed
    cases hvalues
    exact ⟨_, rfl, htrails⟩
  · obtain ⟨f, hfail, -⟩ := (hbound {} [.boolean true, .missing] (by simp [hnone])
      (Or.inr (by simp [hnone]))).2 rfl [.boolean true] [] rfl
    refine ⟨f, hfail, ?_⟩
    cases hfail
    rfl

/-- A missing argument for a primitive component is not always what is reported: here the text
before it cannot be read. And where it is the only one, it is taken for no arguments at all. -/
theorem exists_missing_unreported :
    let note : Member Unit :=
      { name := "note"
        params := [.array (.plain (.primitive .boolean))]
        result := .plain (.primitive .boolean)
        isStatic := true
        isVariadic := true
        body := fun _ _ => pure (.value (.boolean true)) }
    let draft : ClassDraft Unit := { name := "Panel", methods := [note] }
    ∃ cls bound, draft.build = .ok cls ∧
      ({ registry := Registry.Draft.ofStock.build } : Binder).bind? cls note [.boolean] =
        some bound ∧
      bound.bindArgs {} [.text "a", .missing] = .error (.noConverter "boolean" "text") ∧
      bound.bindArgs {} [.missing] = .ok [.array []] :=
  ⟨_, _, rfl, rfl, rfl, rfl⟩

end Binding

end CellMarshal
