import CellMarshal.Proofs.Reading.Failures
import CellMarshal.Proofs.Registry.Coherence
import CellMarshal.Proofs.Writing.Outcome

/-!
# Nothing where there has to be something

Failures for want of a value and failures for a value of the wrong form are told apart by every
converter, in either direction and however deep the failure occurs. No value and a missing cell make
every converter fail for want of one, except those that hand references and cells on, which never
fail on either. Anything else is never taken for want of a value: a value that is written fails for
its form or for want of a converter, and a cell that is read fails for want of a value only where it
comes down to a missing cell for an element of a primitive type.

The result for reading is by induction on the parts of a reading (`Registry.Reads`), and the one for
writing by induction on values. Main statements: `sparesNull_writeWith`, `reads_missing_of_readWith`
and `nullArgument_only_for_missing`.
-/

namespace CellMarshal

/-! ## Writing -/

namespace Writing

variable {α β : Type}

/-- A writing that does not fail for want of a value. -/
def SparesNull (w : Writing α) : Prop :=
  Ends w (fun _ => True) fun f => ∀ context, f ≠ .nullArgument context

/-- To give a value is not to fail for want of one. -/
theorem SparesNull.pure (x : α) : SparesNull (pure x) :=
  Ends.pure trivial

/-- A chain does not fail for want of a value where its links do not. -/
theorem SparesNull.bind {w : Writing α} {k : α → Writing β} (hw : SparesNull w)
    (hk : ∀ x, SparesNull (k x)) : SparesNull (w >>= k) :=
  Ends.bind hw fun x _ => hk x

/-- To hand something over is not to fail. -/
theorem SparesNull.ofArena (f : Arena → Cell × Arena) : SparesNull (ofArena f) :=
  Ends.ofArena fun _ => trivial

/-- A value of another type is not the want of one. -/
theorem sparesNull_mismatch (expected found : String) :
    SparesNull (ofResult (.error (.typeMismatch expected found)) : Writing α) :=
  Ends.error fun _ h => by cases h

/-- A conversion that fails for the type of the value alone does not fail for want of one. -/
theorem sparesNull_of_gives {kind : CellKind} {e : Except Failure Cell} (h : Scalar.Gives kind e) :
    SparesNull (ofResult e) := by
  cases e with
  | ok c => exact SparesNull.pure c
  | error f =>
    obtain ⟨expected, found, rfl⟩ := h
    exact sparesNull_mismatch expected found

/-- The want of a converter is not the want of a value. -/
theorem sparesNull_resolveFor (r : Registry) (type : DeclType) (hint : Option CellKind) :
    SparesNull (ofResult (r.resolveFor type hint)) := by
  refine Ends.ofResult (fun _ _ => trivial) fun f hf context => ?_
  obtain ⟨-, rfl⟩ := Registry.resolveFor_error_iff.1 hf
  simp

/-- Handing a value over does not fail. -/
theorem sparesNull_writeObject (v : Value) : SparesNull (writeObject v) := by
  cases v with
  | object o => exact SparesNull.ofArena _
  | handle h t => exact SparesNull.pure _
  | _ => exact SparesNull.ofArena _

/-- A value that is not looked into fails for its form alone. -/
theorem sparesNull_writeWhole (form : ConverterForm) (kind : CellKind) (declared : DeclType)
    (v : Value) : SparesNull (writeWhole form kind declared v) := by
  cases form with
  | numeric p =>
    obtain ⟨_, -, hgives⟩ := Scalar.exists_gives_writeNumeric p kind v
    exact sparesNull_of_gives hgives
  | logical => exact sparesNull_of_gives (Scalar.gives_writeLogical v)
  | logicalNumeric => exact sparesNull_of_gives (Scalar.gives_writeLogicalNumeric v)
  | text => exact sparesNull_of_gives (Scalar.gives_writeText v)
  | textNumeric => exact sparesNull_of_gives (Scalar.gives_writeTextNumeric v)
  | charText => exact sparesNull_of_gives (Scalar.gives_writeCharText v)
  | date => exact sparesNull_of_gives (Scalar.gives_writeDate v)
  | dateTime => exact sparesNull_of_gives (Scalar.gives_writeDateTime v)
  | handle =>
    show SparesNull (ofResult (writeHandle v))
    unfold writeHandle
    split
    · exact SparesNull.pure _
    · exact SparesNull.pure _
    · exact sparesNull_mismatch _ _
  | cell =>
    show SparesNull (ofResult (writeCell v))
    unfold writeCell
    split
    · exact SparesNull.pure _
    · exact sparesNull_mismatch _ _
  | objectHandle => exact sparesNull_writeObject v
  | _ => exact sparesNull_mismatch _ _

end Writing

namespace Registry

open Writing

variable {r : Registry} {a : Arena} {k : Converter} {t : DeclType} {v : Value} {c : Cell}
  {text : String}

/-- An element that is no value is written as a missing cell, so none fails for want of one. -/
theorem sparesNull_writeElement (elem : Option DeclType)
    (hv : v ≠ .null → ∀ k declared, SparesNull (r.writeWith k declared v)) :
    SparesNull (r.writeElement elem v) := by
  by_cases hn : v = .null
  · rw [hn, writeElement_null]
    exact SparesNull.pure _
  · rw [writeElement_of_ne_null r elem hn]
    exact (sparesNull_resolveFor r _ _).bind fun k => hv hn k _

/-- Elements are written without a failure for want of a value where converters write each of them,
nulls apart, without one. -/
theorem sparesNull_writeItems {items : List Value} (elem : Option DeclType)
    (hitems : ∀ v ∈ items, v ≠ .null → ∀ k declared, SparesNull (r.writeWith k declared v)) :
    SparesNull (r.writeItems elem items) := by
  induction items with
  | nil =>
    rw [writeItems_nil]
    exact SparesNull.pure _
  | cons v vs ih =>
    rw [writeItems_cons]
    refine (sparesNull_writeElement elem (hitems v List.mem_cons_self)).bind fun c => ?_
    refine (ih fun w hw => hitems w (List.mem_cons_of_mem _ hw)).bind fun cs => ?_
    exact SparesNull.pure _

/-- Entries are written without a failure for want of a value where converters write each key and
each value, nulls apart, without one. -/
theorem sparesNull_writeEntries {entries : List (Value × Value)} (keys values : Option DeclType)
    (hentries : ∀ e ∈ entries, ∀ v ∈ [e.1, e.2], v ≠ .null →
      ∀ k declared, SparesNull (r.writeWith k declared v)) :
    SparesNull (r.writeEntries keys values entries) := by
  induction entries with
  | nil =>
    rw [writeEntries_nil]
    exact SparesNull.pure _
  | cons e es ih =>
    have he := hentries e List.mem_cons_self
    rw [writeEntries_cons]
    refine (sparesNull_writeElement keys (he e.1 (by simp))).bind fun c => ?_
    refine (sparesNull_writeElement values (he e.2 (by simp))).bind fun d => ?_
    refine (ih fun e he => hentries e (List.mem_cons_of_mem _ he)).bind fun rows => ?_
    exact SparesNull.pure _

/-- **Writing a value never fails for want of one**, at whatever depth it fails. -/
theorem sparesNull_writeWith (k : Converter) (declared : DeclType) (hv : v ≠ .null) :
    SparesNull (r.writeWith k declared v) := by
  induction v using Value.induction generalizing k declared with
  | step v ih =>
    have hwhole := sparesNull_writeWhole k.form k.kind declared v
    have hitems : ∀ elem, SparesNull (r.writeItems elem v.parts) :=
      fun elem => sparesNull_writeItems elem fun p hp hp' k declared => ih p hp k declared hp'
    cases v with
    | null => exact absurd rfl hv
    | list items =>
      rw [writeWith]
      split
      · exact (hitems _).bind fun cells => SparesNull.pure _
      · exact hwhole
    | array items =>
      rw [writeWith]
      split
      · exact (hitems _).bind fun cells => SparesNull.pure _
      · exact hwhole
    | set items =>
      rw [writeWith]
      split
      · exact (hitems _).bind fun cells => SparesNull.pure _
      · exact hwhole
    | map entries =>
      rw [writeWith]
      split
      · refine (sparesNull_writeEntries _ _ fun e he p hp hp' k declared => ?_).bind
          fun rows => SparesNull.pure _
        exact ih p (List.mem_flatMap.2 ⟨e, he, hp⟩) k declared hp'
      · exact hwhole
    | _ =>
      rw [writeWith_of_not_nested r k declared hv rfl]
      exact hwhole

end Registry

/-! ## Reading -/

namespace Registry

variable {r : Registry} {a : Arena} {k : Converter} {t : DeclType} {c : Cell} {v : Value}
  {text : String}

/-- A missing cell is read for a type of cells by handing it on, which does not fail. -/
theorem read_missing_of_isCell (ht : t.isCell = true) :
    r.read a t .missing ≠ .error (.nullArgument text) := by
  intro h
  rw [read_eq] at h
  rcases bind_eq_error_iff.1 h with h | ⟨k, hk, h⟩
  · obtain ⟨-, hf⟩ := resolveKind_error_iff.1 h
    cases hf
  · have hf := Converter.form_eq_cell_of_produces ht
      (of_reader?_eq_some (resolveKind_ok_iff.1 hk)).2.2
    simp [readWith, Reading.readBy, Converter.toleratesNull, ConverterForm.toleratesNull,
      Converter.reads, Reading.readForm, hf] at h

/-- **A converter fails for want of a value only for a missing element of a primitive type**, given
that the readings of the parts of the cell do. -/
theorem exists_part_of_readWith (hc : c ≠ .missing)
    (ih : ∀ s b, Reading.IsInner s b t c → b ≠ .missing →
      r.read a s b = .error (.nullArgument text) → ∃ e, e.isPrimitive = true ∧
        Failure.nullArgument text = .emptyElement e ∧ r.Reads e .missing s b)
    (h : r.readWith a k t c = .error (.nullArgument text)) :
    ∃ e, e.isPrimitive = true ∧ Failure.nullArgument text = .emptyElement e ∧
      ∃ part ∈ Reading.parts k.form t c, r.Reads e .missing part.1 part.2 := by
  have hform : Reading.readForm a (r.read a) k.form t c = .error (.nullArgument text) := by
    unfold readWith Reading.readBy at h
    split at h
    · rename_i hmissing
      rw [Bool.and_eq_true, Cell.isMissing_iff] at hmissing
      exact absurd hmissing.1 hc
    · split at h
      · cases h
      · exact h
  -- what the converter comes to by itself is never want of a value
  rcases Reading.isOwn_or_of_readForm hform with hown | ⟨⟨s, b⟩, hpart, hread⟩
  · cases hown
  rcases Reading.readElement_eq_error hread with ⟨hb, hs, htext⟩ | ⟨hgap, hread⟩
  · obtain rfl : b = .missing := hb
    exact ⟨s, hs, htext, (s, .missing), hpart, .self⟩
  · have hb : b ≠ .missing := by
      rintro rfl
      exact read_missing_of_isCell (by simpa [Cell.isMissing] using hgap) hread
    obtain ⟨e, he, htext, hreads⟩ := ih s b (Reading.isPart_of_mem_parts hpart).isInner hb hread
    exact ⟨e, he, htext, (s, b), hpart, hreads⟩

/-- A registry fails for want of a value on a cell that is not missing only where the reading comes
down to a missing cell for a primitive type. -/
theorem reads_missing_of_read (hc : c ≠ .missing)
    (h : r.read a t c = .error (.nullArgument text)) :
    ∃ e, e.isPrimitive = true ∧ Failure.nullArgument text = .emptyElement e ∧
      r.Reads e .missing t c := by
  -- readings within the cell have a smaller bound
  induction hn : Reading.bound t c using Nat.strongRecOn generalizing t c with
  | ind n ih =>
    rw [read_eq] at h
    rcases bind_eq_error_iff.1 h with h | ⟨k, hk, h⟩
    · obtain ⟨-, hf⟩ := resolveKind_error_iff.1 h
      cases hf
    · obtain ⟨e, he, htext, part, hpart, hreads⟩ := exists_part_of_readWith hc
        (fun s b hinner hb hread => ih _ (hn ▸ Reading.bound_lt_of_isInner hinner) hb hread rfl) h
      exact ⟨e, he, htext, .part (resolveKind_ok_iff.1 hk) hpart hreads⟩

/-- A reading by a converter, of a cell that is not missing, fails for want of a value only where
one of its parts comes down to a missing cell for an element of a primitive type. -/
theorem reads_missing_of_readWith (hc : c ≠ .missing)
    (h : r.readWith a k t c = .error (.nullArgument text)) :
    ∃ e, e.isPrimitive = true ∧ Failure.nullArgument text = .emptyElement e ∧
      ∃ part ∈ Reading.parts k.form t c, r.Reads e .missing part.1 part.2 :=
  exists_part_of_readWith hc (fun _ _ _ hb hread => reads_missing_of_read hb hread) h

/-! ## Both ways -/

/-- Whether a converter hands on what it is given: references or cells. -/
theorem toleratesNull_iff : k.toleratesNull = true ↔ k.form = .handle ∨ k.form = .cell := by
  unfold Converter.toleratesNull
  cases k.form <;> simp [ConverterForm.toleratesNull]

/-- **Failures for want of a value are told apart from those for its form**, by every converter in
every registry, on every arena and for every declared type. -/
theorem nullArgument_only_for_missing (r : Registry) (k : Converter) (a : Arena) (t : DeclType) :
    -- no value and a missing cell are handed on by the two forms that hand on what they are given
    ((k.form = .handle ∨ k.form = .cell) →
      (r.writeWith k t .null).runOn a = (.ok .missing, a) ∧
        ∃ v, r.readWith a k t .missing = .ok v) ∧
    -- and make every other form fail for want of a value
    (¬ (k.form = .handle ∨ k.form = .cell) →
      (∃ text, (r.writeWith k t .null).runOn a = (.error (.nullArgument text), a)) ∧
        ∃ text, r.readWith a k t .missing = .error (.nullArgument text)) ∧
    -- a cell of a kind that the converter does not read is a mismatch
    (∀ c, c ≠ .missing → k.reads c.kind = false →
      ∃ expected found, r.readWith a k t c = .error (.typeMismatch expected found)) ∧
    -- a value that is written never fails for want of one
    (∀ v text, v ≠ .null → ((r.writeWith k t v).runOn a).1 ≠ .error (.nullArgument text)) ∧
    -- a cell that is read does so only where a missing cell in it is read for a primitive type
    (∀ c text, c ≠ .missing → r.readWith a k t c = .error (.nullArgument text) →
      Cell.Inside .missing c ∧ ∃ e, e.isPrimitive = true ∧
        Failure.nullArgument text = .emptyElement e ∧
          ∃ part ∈ Reading.parts k.form t c, r.Reads e .missing part.1 part.2) := by
  refine ⟨fun hk => ?_, fun hk => ?_, fun c hc hk => ?_, fun v text hv h => ?_,
    fun c text hc h => ?_⟩
  · have htolerates := toleratesNull_iff.2 hk
    constructor
    · rw [writeWith_null, if_pos htolerates]
      rfl
    · rcases hk with hf | hf
      · exact ⟨.null, by simp [readWith, Reading.readBy, Converter.reads, Reading.readForm,
          Reading.readHandle, htolerates, hf, Cell.kind]⟩
      · exact ⟨.cell .missing, by simp [readWith, Reading.readBy, Converter.reads,
          Reading.readForm, htolerates, hf]⟩
  · rw [← toleratesNull_iff] at hk
    constructor
    · rw [writeWith_null, if_neg hk]
      exact ⟨_, rfl⟩
    · exact ⟨_, by simp [readWith, Reading.readBy, hk, Cell.isMissing]; rfl⟩
  · have hmissing : c.isMissing = false := by
      rwa [Bool.eq_false_iff, ne_eq, Cell.isMissing_iff]
    refine ⟨k.kind.word, c.kind.word, ?_⟩
    simp [readWith, Reading.readBy, hmissing, hk, Failure.unexpectedCell]
  · have hends := sparesNull_writeWith (r := r) k t hv a
    rw [h] at hends
    exact hends text rfl
  · obtain ⟨e, he, htext, part, hpart, hreads⟩ := reads_missing_of_readWith hc h
    have hd : Cell.missing.kind ≠ .grid := by simp [Cell.kind]
    exact ⟨(Reading.isPart_of_mem_parts hpart).inside hd (hreads.inside hd), e, he, htext, part,
      hpart, hreads⟩

/-- A grid of truth values with a gap, for an array of arrays: reading it fails for the gap, two
readings deep, while a text is a mismatch and no value cannot be written. -/
theorem nullArgument_only_for_missing_gap :
    let r := stock .column
    let t : DeclType := .array (.array (.plain (.primitive .boolean)))
    let k : Converter := ⟨.array, .grid, 0⟩
    let c : Cell := .grid [[.boolean true, .missing]]
    (∃ text, (r.writeWith k t .null).runOn {} = (.error (.nullArgument text), {})) ∧
      (∃ expected found, r.readWith {} k t (.text "x") = .error (.typeMismatch expected found)) ∧
      r.readWith {} k t c = .error (.emptyElement (.plain (.primitive .boolean))) ∧
      Cell.Inside .missing c ∧ ∃ e, e.isPrimitive = true ∧
        ∃ part ∈ Reading.parts .array t c, r.Reads e .missing part.1 part.2 := by
  intro r t k c
  obtain ⟨-, hnull, hmismatch, -, hmissing⟩ := nullArgument_only_for_missing r k {} t
  have h : r.readWith {} k t c = .error (.nullArgument "empty cell for boolean element") := by rfl
  obtain ⟨hin, e, he, -, part, hpart, hreads⟩ := hmissing c _ (by simp [c]) h
  exact ⟨(hnull (by simp [k])).1, hmismatch (.text "x") (by simp) rfl, h, hin, e, he, part, hpart,
    hreads⟩

end Registry

end CellMarshal
