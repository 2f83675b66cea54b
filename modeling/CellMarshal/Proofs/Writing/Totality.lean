import CellMarshal.Proofs.RoundTrip.Grids
import CellMarshal.Proofs.Writing.Outcome

/-!
# Every value is written

Under the stock table, in either orientation, a value that is written by the type that it shows is
written on every arena. A plain value shows a built-in class, whose converter takes it, and an
object shows a class of its own, which is handed over. A list, a set or a map shows no type of its
elements, so that each is written by the type that it shows itself. An array shows the type that its
elements have in common, and they are written for this type; but where they have one in common, it
is what each of them shows (`writeItems_commonType`), so that nothing is asked of them that they do
not do on their own (`write_commonType`). Main statements: `succeeds_writeItems`,
`succeeds_writeEntries`, `succeeds_writeValue` and `writeValue_ok`.
-/

namespace CellMarshal

namespace Writing

/-- A writing that comes to a result on every arena. -/
def Succeeds {α : Type} (w : Writing α) : Prop :=
  Ends w (fun _ => True) fun _ => False

/-- A writing that succeeds comes to a result and leaves an arena. -/
theorem Succeeds.exists_ok {α : Type} {w : Writing α} (hw : Succeeds w) (a : Arena) :
    ∃ x b, w.runOn a = (.ok x, b) := by
  have ha := hw a
  rcases hr : w.runOn a with ⟨f | x, b⟩
  · rw [hr] at ha
    exact ha.elim
  · exact ⟨x, b, rfl⟩

/-- Handing a value over succeeds. -/
theorem succeeds_writeObject (v : Value) : Succeeds (writeObject v) := by
  cases v with
  | object o => exact Ends.ofArena fun _ => trivial
  | handle h t => exact Ends.pure trivial
  | _ => exact Ends.ofArena fun _ => trivial

end Writing

namespace Registry

open Writing

variable {o : Orientation} {t : DeclType} {v : Value} {items : List Value}

/-! ## Values by the type that they show -/

/-- To write a value by the type that it shows is to write it as declared by this type. -/
theorem writeValue_eq_write (r : Registry) (h : v.type? = some t) :
    r.writeValue v = r.write t v := by
  cases ho : t.isOpen with
  | true => rw [write_of_open r ho]
  | false => rw [writeValue_of_type r h, write_of_closed r ho]

/-- An element without a declared type is written by the type that it shows. -/
theorem writeElement_none (r : Registry) (v : Value) : r.writeElement none v = r.writeValue v := by
  rcases h : v.type? with _ | t
  · rw [Value.type?_eq_none_iff.1 h]
    rfl
  · rw [writeValue_eq_write r h, write_of_type? r h]

/-- An element of an array is written for the type that the array shows as it is on its own. -/
theorem write_commonType (r : Registry) (hv : v ∈ items) (hnull : v ≠ .null) :
    r.write (Value.commonType (Value.types items)) v = r.writeValue v := by
  by_cases hobject : Value.commonType (Value.types items) = .object
  · rw [hobject, write_of_open r rfl]
  · rw [writeValue_eq_write r (Value.type?_eq_commonType hv hnull hobject)]

/-- A value that is no container is written where its converter takes it. -/
theorem succeeds_of_single {k : Converter} {c : Cell} (h : v.type? = some t)
    (hv : v.isNested = false) (hk : (stock o).writer? t none = some k)
    (hw : writeWhole k.form k.kind t v = ofResult (.ok c)) : Succeeds ((stock o).writeValue v) := by
  have hnull : v ≠ .null := by
    rintro rfl
    cases h
  rw [writeValue_of_type _ h, resolveFor_of_some hk, ofResult_ok_bind,
    writeWith_of_not_nested _ _ _ hnull hv, hw]
  exact Ends.pure trivial

/-! ## Containers -/

/-- Elements without a declared type are written if each can be written. -/
theorem succeeds_writeItems (h : ∀ v ∈ items, Succeeds ((stock o).writeValue v)) :
    Succeeds ((stock o).writeItems none items) := by
  induction items with
  | nil =>
    rw [writeItems_nil]
    exact Ends.pure trivial
  | cons v vs ih =>
    rw [writeItems_cons, writeElement_none]
    refine Ends.bind (h v List.mem_cons_self) fun c _ => ?_
    refine Ends.bind (ih fun u hu => h u (List.mem_cons_of_mem _ hu)) fun cs _ => ?_
    exact Ends.pure trivial

/-- So are the entries of a map. -/
theorem succeeds_writeEntries {entries : List (Value × Value)}
    (h : ∀ e ∈ entries, Succeeds ((stock o).writeValue e.1) ∧ Succeeds ((stock o).writeValue e.2)) :
    Succeeds ((stock o).writeEntries none none entries) := by
  induction entries with
  | nil =>
    rw [writeEntries_nil]
    exact Ends.pure trivial
  | cons e es ih =>
    obtain ⟨hkey, hvalue⟩ := h e List.mem_cons_self
    rw [writeEntries_cons, writeElement_none, writeElement_none]
    refine Ends.bind hkey fun c _ => Ends.bind hvalue fun d _ => ?_
    refine Ends.bind (ih fun x hx => h x (List.mem_cons_of_mem _ hx)) fun rows _ => ?_
    exact Ends.pure trivial

/-- The elements of a container, once they are written, can be laid out. -/
theorem succeeds_layOut {way : Orientation}
    (h : ∀ v ∈ items, Succeeds ((stock o).writeValue v)) :
    Succeeds (do let cells ← (stock o).writeItems none items
                 pure (layOut way items cells)) :=
  Ends.bind (succeeds_writeItems h) fun _ _ => Ends.pure trivial

/-! ## Every value -/

/-- **Every value is written by the type that it shows.** -/
theorem succeeds_writeValue (o : Orientation) (v : Value) : Succeeds ((stock o).writeValue v) := by
  induction v using Value.induction with
  | step v ih =>
    cases v with
    | null => exact Ends.pure trivial
    | list items =>
      rw [writeValue_eq_write _ rfl, write_list rfl]
      exact succeeds_layOut ih
    | set items =>
      rw [writeValue_eq_write _ rfl, write_set rfl]
      exact succeeds_layOut ih
    | array items =>
      rw [writeValue_eq_write _ rfl, write_array, writeItems_commonType]
      exact succeeds_layOut ih
    | map entries =>
      have hentries : ∀ e ∈ entries, Succeeds ((stock o).writeValue e.1) ∧
          Succeeds ((stock o).writeValue e.2) := by
        intro e he
        exact ⟨ih e.1 (List.mem_flatMap.2 ⟨e, he, by simp⟩),
          ih e.2 (List.mem_flatMap.2 ⟨e, he, by simp⟩)⟩
      rw [writeValue_eq_write _ rfl, write_map rfl]
      exact Ends.bind (succeeds_writeEntries hentries) fun _ _ => Ends.pure trivial
    | object x =>
      have hk : (stock o).writer? (.plain (.named x.classId.name)) none =
          some ⟨.objectHandle, .reference, -10⟩ := rfl
      rw [writeValue_eq_write _ rfl, write_of_writer? rfl hk,
        writeWith_of_not_nested _ _ _ (by simp) rfl]
      exact succeeds_writeObject (.object x)
    | _ => exact succeeds_of_single rfl rfl rfl rfl

/-- **Writing by the type that is shown never fails** under the stock table, in either orientation,
for every value and on every arena, however containers, references, cells, objects and missing
values are nested in it. And the type that an array shows for its elements is one that each of them
can be written for, missing values apart. -/
theorem writeValue_ok (o : Orientation) (a : Arena) :
    (∀ v, ∃ c b, ((stock o).writeValue v).runOn a = (.ok c, b)) ∧
      ∀ items component, (Value.array items).type? = some (.array component) →
        ∀ v ∈ items, v ≠ .null → ∃ c b, ((stock o).write component v).runOn a = (.ok c, b) := by
  refine ⟨fun v => (succeeds_writeValue o v).exists_ok a, ?_⟩
  intro items component hshown v hv hnull
  obtain rfl : Value.commonType (Value.types items) = component := by
    rw [Value.type?, Option.some.injEq, DeclType.array.injEq] at hshown
    exact hshown
  rw [write_commonType _ hv hnull]
  exact (succeeds_writeValue o v).exists_ok a

/-- Rows of integers, one of them with a missing value and one missing altogether, show the type
that they have in common, and are written for it; a row of texts among them leaves any object, for
which the rows are written too. -/
theorem writeValue_ok_rows :
    let rows : List Value := [.array [.int 1, .null], .null, .array [.int 2]]
    let mixed : List Value := rows ++ [.array [.string "x"]]
    (Value.array rows).type? = some (.array (.array (.plain (.boxed .int)))) ∧
      (Value.array mixed).type? = some (.array .object) ∧
      (∃ c b, ((stock .row).write (.array (.plain (.boxed .int))) (.array [.int 2])).runOn {} =
        (.ok c, b)) ∧
      ∃ c b, ((stock .row).write .object (.array [.int 2])).runOn {} = (.ok c, b) := by
  intro rows mixed
  obtain ⟨-, hcomponent⟩ := writeValue_ok .row {}
  have hrows : (Value.array rows).type? = some (.array (.array (.plain (.boxed .int)))) := by
    decide
  have hmixed : (Value.array mixed).type? = some (.array .object) := by
    decide
  exact ⟨hrows, hmixed, hcomponent rows _ hrows _ (by simp [rows]) (by simp),
    hcomponent mixed _ hmixed _ (by simp [mixed, rows]) (by simp)⟩

end Registry

end CellMarshal
