import CellMarshal.Binding.Invoke
import CellMarshal.Proofs.Binding.Slots
import CellMarshal.Proofs.RoundTrip.Stock

/-!
# Results and declared values

A value becomes a cell in two ways. The result of a member is written by the plan that was made when
the member was bound (`Binding.marshal`); any other value, the elements of containers among them, is
written by the registry for its declared type (`Registry.write`). Under the stock table both come to
the same for every type that is written at all, with one exception. A result declared as a class of
its own is handed over, unless it is a cell that is a reference already; the registry hands over
this too, wrapped in an object. So the member's host gets the reference itself, and the host of a
list of such results gets references to references.

Main statements: `exists_writer?_stock` (what the stock table writes a type by),
`marshal_eq_write_of_open`, `marshal_eq_write_of_closed` (the two ways are one) and
`marshal_compared`.
-/

namespace CellMarshal

/-! ## Bindings and their plans -/

/-- What a binder makes for a class: the binding of a member for some kinds of arguments, or that of
a field. -/
inductive Binder.Makes {σ : Type} (binder : Binder) (cls : ClassDef σ) (bound : Binding σ) : Prop
  | member (m : Member σ) (kinds : List CellKind) (h : binder.bind? cls m kinds = some bound)
  | field (name : String) (args : List Cell) (h : binder.field cls name args = .ok bound)

/-- The plan of a binding is the one for the declared type of its result. -/
theorem Binder.Makes.plan_eq {σ : Type} {binder : Binder} {cls : ClassDef σ} {bound : Binding σ}
    (h : binder.Makes cls bound) :
    bound.registry = binder.registry ∧
      bound.plan = .ofType binder.registry bound.resultType := by
  cases h with
  | member m kinds h =>
    obtain ⟨rest, slots, va, scores, -, -, -, -, rfl⟩ := bind?_eq_some_iff.1 h
    exact ⟨rfl, rfl⟩
  | field name args h =>
    obtain ⟨f, -, rfl⟩ := exists_of_field h
    exact ⟨rfl, rfl⟩

namespace Registry

open Writing

variable {o : Orientation} {t : DeclType}

/-! ## What the stock table writes by -/

/-- The levels of a type with a class are those of its class. -/
theorem lineage_of_raw? {s : RawType} (h : t.raw? = some s) :
    t.lineage = s.lineage.map DeclType.plain := by
  cases t with
  | array c => cases h
  | _ =>
    cases h
    rfl

/-- The stock table has a converter for every type that says by itself how its values are written,
and it is the one that hands objects over for classes of their own alone. -/
theorem exists_writer?_stock (o : Orientation)
    (hpass : (t.isVoid || t.isCell || t.isHandle) = false) (ho : t.isOpen = false) :
    ∃ k, (stock o).writer? t none = some k ∧
      (k.form = .objectHandle ↔ ∃ name, t.raw? = some (.named name)) := by
  rcases hr : t.raw? with _ | s
  · obtain ⟨c, rfl⟩ := DeclType.raw?_eq_none_iff.1 hr
    refine ⟨⟨.array, .grid, 10⟩, rfl, ?_⟩
    simp
  · have hlineage : (stock o).writer? t none = (stock o).walk none (s.lineage.map .plain) := by
      rw [writer?, lineage_of_raw? hr]
    rw [hlineage]
    simp only [DeclType.isVoid, DeclType.isCell, DeclType.isHandle, DeclType.isOf, DeclType.isOpen,
      hr] at hpass ho
    cases s with
    | named name => exact ⟨⟨.objectHandle, .reference, -10⟩, rfl, by simp⟩
    | primitive p => cases p <;> exact ⟨_, rfl, by simp⟩
    | boxed p => cases p <;> exact ⟨_, rfl, by simp⟩
    | void => simp at hpass
    | cell => simp at hpass
    | handle => simp at hpass
    | number => simp at ho
    | collection => simp at ho
    | object => simp at ho
    | _ => exact ⟨_, rfl, by simp⟩

end Registry

/-! ## Both ways compared -/

namespace Binding

open Writing

variable {σ : Type} {b : Binding σ} {r : Registry} {v : Value}

/-- A result for which there is a value is written by the plan. -/
theorem marshal_of_ne_null (hv : v ≠ .null)
    (hpass : (b.resultType.isVoid || b.resultType.isCell || b.resultType.isHandle) = false) :
    b.marshal v =
      match b.plan with
      | .converted k => b.registry.writeWith k b.resultType v
      | .dynamic => b.registry.writeValue v
      | .passThrough => passResult v
      | .boxing => boxResult v := by
  simp only [Bool.or_eq_false_iff] at hpass
  have hwritten : ¬(v.isNull || b.resultType.isVoid) = true := by
    rw [hpass.1.1, Bool.or_false, Value.isNull_iff]
    exact hv
  exact if_neg hwritten

/-- References apart, a result is handed over as any other value is. -/
theorem boxResult_eq_writeObject (h : ∀ handle tag, v ≠ .cell (.reference handle tag)) :
    boxResult v = writeObject v := by
  unfold boxResult
  split
  · exact absurd rfl (h _ _)
  · rfl

/-- A type that leaves the choice to the value does so both ways. -/
theorem marshal_eq_write_of_open (hplan : b.plan = .ofType b.registry b.resultType)
    (hpass : (b.resultType.isVoid || b.resultType.isCell || b.resultType.isHandle) = false)
    (ho : b.resultType.isOpen = true) (hv : v ≠ .null) :
    b.marshal v = b.registry.write b.resultType v := by
  rw [marshal_of_ne_null hv hpass, hplan, ResultPlan.ofType_of_open _ hpass ho,
    Registry.write_of_open _ ho]

/-- For any other type the plan was made with the converter that the registry finds. -/
theorem marshal_of_writer? (hplan : b.plan = .ofType b.registry b.resultType)
    (hpass : (b.resultType.isVoid || b.resultType.isCell || b.resultType.isHandle) = false)
    (ho : b.resultType.isOpen = false) {k : Converter}
    (hk : b.registry.writer? b.resultType none = some k) (hv : v ≠ .null) :
    b.marshal v =
      if k.form = .objectHandle then boxResult v else b.registry.writeWith k b.resultType v := by
  rw [marshal_of_ne_null hv hpass, hplan, ResultPlan.ofType_of_closed _ hpass ho, hk]
  by_cases hf : k.form = .objectHandle
  · simp only [hf, if_true]
  · simp only [hf, if_false]

/-- A value that is handed over is handed over both ways, unless it is a reference already. -/
theorem marshal_eq_write_of_closed (hplan : b.plan = .ofType b.registry b.resultType)
    (hpass : (b.resultType.isVoid || b.resultType.isCell || b.resultType.isHandle) = false)
    (ho : b.resultType.isOpen = false) {k : Converter}
    (hk : b.registry.writer? b.resultType none = some k) (hv : v ≠ .null)
    (href : k.form = .objectHandle → ∀ handle tag, v ≠ .cell (.reference handle tag)) :
    b.marshal v = b.registry.write b.resultType v := by
  rw [marshal_of_writer? hplan hpass ho hk hv, Registry.write_of_writer? ho hk]
  by_cases hf : k.form = .objectHandle
  · rw [if_pos hf, boxResult_eq_writeObject (href hf),
      Registry.writeWith_of_whole _ _ _ hv (by simp [hf]), hf]
    rfl
  · rw [if_neg hf]

/-- **Results are written as declared values are**, under the stock table, in every orientation and
arena, for every binding of a member or a field. Both ways give the same cell or failure and leave
the same arena, for every value and for every declared type but those of nothing, of cells and of
references. The one exception is a cell that is a reference and is declared as a class of its own:
as a result it goes out as it is, and nothing is handed over; the registry hands it over, wrapped in
an object. -/
theorem marshal_compared (binder : Binder) (o : Orientation) (hr : binder.registry = .stock o)
    (cls : ClassDef σ) (bound : Binding σ) (hb : binder.Makes cls bound)
    (hpass : (bound.resultType.isVoid || bound.resultType.isCell ||
      bound.resultType.isHandle) = false) (v : Value) (hv : v ≠ .null) (a : Arena) :
    ((∀ handle tag name, v = .cell (.reference handle tag) →
        bound.resultType.raw? ≠ some (.named name)) →
      (bound.marshal v).runOn a = ((Registry.stock o).write bound.resultType v).runOn a) ∧
    ∀ handle tag name, v = .cell (.reference handle tag) →
      bound.resultType.raw? = some (.named name) →
        (bound.marshal v).runOn a = (.ok (.reference handle tag), a) ∧
          ((Registry.stock o).write bound.resultType v).runOn a =
            (.ok (a.park v).1, (a.park v).2) := by
  obtain ⟨hregistry, hplan⟩ := hb.plan_eq
  rw [← hregistry] at hplan
  rw [hr] at hregistry
  rw [← hregistry]
  constructor
  · intro hclass
    by_cases ho : bound.resultType.isOpen = true
    · rw [marshal_eq_write_of_open hplan hpass ho hv]
    · rw [Bool.not_eq_true] at ho
      obtain ⟨k, hk, hf⟩ := Registry.exists_writer?_stock o hpass ho
      rw [← hregistry] at hk
      rw [marshal_eq_write_of_closed hplan hpass ho hk hv]
      intro hobject handle tag hv'
      obtain ⟨name, hname⟩ := hf.1 hobject
      exact hclass handle tag name hv' hname
  · rintro handle tag name rfl hname
    have ho : bound.resultType.isOpen = false := by rw [DeclType.isOpen, hname]
    obtain ⟨k, hk, hf⟩ := Registry.exists_writer?_stock o hpass ho
    have hobject : k.form = .objectHandle := hf.2 ⟨name, hname⟩
    rw [← hregistry] at hk
    constructor
    · rw [marshal_of_writer? hplan hpass ho hk hv, if_pos hobject]
      rfl
    · rw [Registry.write_of_writer? ho hk, Registry.writeWith_of_whole _ _ _ hv (by simp [hobject]),
        hobject]
      rfl

/-- Results declared as a class: an object is handed over both ways, and so is a truth value, while
a cell that is a reference is handed over by the registry only. -/
theorem marshal_compared_curve :
    let curve : Object := { identity := .made 7, classId := { name := "Curve" }, content := none }
    let latest : Member Unit :=
      { name := "latest", params := [], result := .plain (.named "Curve"), isStatic := true
        body := fun _ _ => pure (.value (.object curve)) }
    let book : ClassDef Unit :=
      { classId := { name := "Book" }, constructors := [], methods := [latest], fields := [] }
    ∃ bound, ({ registry := .stock .column } : Binder).bind? book latest [] = some bound ∧
      (bound.marshal (.object curve)).runOn {} =
        ((Registry.stock .column).write latest.result (.object curve)).runOn {} ∧
      (bound.marshal (.boolean true)).runOn {} =
        ((Registry.stock .column).write latest.result (.boolean true)).runOn {} ∧
      (bound.marshal (.cell (.reference 7 "Curve"))).runOn {} =
        (.ok (.reference 7 "Curve"), {}) := by
  intro curve latest book
  refine ⟨_, rfl, ?_, ?_, ?_⟩
  · exact (marshal_compared _ .column rfl book _ (.member latest [] rfl) rfl (.object curve)
      (by simp) {}).1 (fun _ _ _ h => by simp at h)
  · exact (marshal_compared _ .column rfl book _ (.member latest [] rfl) rfl (.boolean true)
      (by simp) {}).1 (fun _ _ _ h => by simp at h)
  · exact ((marshal_compared _ .column rfl book _ (.member latest [] rfl) rfl
      (.cell (.reference 7 "Curve")) (by simp) {}).2 7 "Curve" "Curve" rfl rfl).1

/-- The two ways part for a reference that is declared as its own class: the member's host is given
handle 7 and the arena stays empty, while the registry gives handle 1, for an object that wraps the
reference. -/
theorem exists_reference_boxed_again :
    let latest : Member Unit :=
      { name := "latest", params := [], result := .plain (.named "Curve"), isStatic := true
        body := fun _ _ => pure (.value (.cell (.reference 7 "Curve"))) }
    let book : ClassDef Unit :=
      { classId := { name := "Book" }, constructors := [], methods := [latest], fields := [] }
    let v : Value := .cell (.reference 7 "Curve")
    ∃ bound, ({ registry := .stock .column } : Binder).bind? book latest [] = some bound ∧
      bound.resultType = latest.result ∧
      (bound.marshal v).runOn {} = (.ok (.reference 7 "Curve"), {}) ∧
      ((Registry.stock .column).write latest.result v).runOn {} =
        (.ok (.reference 1 "WireValue"), (Arena.park {} v).2) ∧
      (Arena.park {} v).2.byHandle.find? 1 =
        some { object := .wrapping (.parked 1) v, refs := 1 } :=
  ⟨_, rfl, rfl, rfl, rfl, rfl⟩

end Binding

end CellMarshal
