import CellMarshal.Binding.Invoke
import CellMarshal.Proofs.Arena.Parking
import CellMarshal.Proofs.Writing.Outcome
import CellMarshal.Proofs.Writing.References
import CellMarshal.Registry.Draft

/-!
# What writing does to the arena

Writing a value reaches the arena by handing objects over, and in no other way, whether it succeeds
or fails. Where it succeeds with a value that brings no references of its own, the cell carries the
handles that were given, each as often as it was given and in that order: no reference is taken
without a cell that tells the host of it.

`Writing.HandsOver` says both of a writing, in the manner of a triple: from the handles `pre` given
before it, it comes to a result whose references are these and the ones it gave. It is closed under
the ways in which writings are put together (`HandsOver.pure`, `HandsOver.bind`, …), so that one
induction over values carries it to `Registry.write` and `Binding.marshal`. Main statements:
`handsOver_writeWith`, `handsOver_write`, `handsOver_marshal` and `refs_eq_of_written`.
-/

namespace CellMarshal

namespace Writing

variable {α β : Type} {p q : Prop} {pre : List Handle} {a : Arena}

/-! ## Writings that hand objects over -/

/-- The writing hands objects over and does nothing else to the arena, also where it fails; and
where `p` holds and it succeeds, the handles given before it, followed by those that it gave, are
the references of its result. -/
def HandsOver (p : Prop) (pre : List Handle) (w : Writing α) (refs : α → List Handle) : Prop :=
  ∀ a, ∃ os, (w.runOn a).2 = (a.putAll os).2 ∧
    (p → ∀ x, (w.runOn a).1 = .ok x → pre ++ (a.putAll os).1 = refs x)

/-- A stronger condition may be put in the place of the condition. -/
theorem HandsOver.weaken {w : Writing α} {refs : α → List Handle}
    (hw : HandsOver p pre w refs) (h : q → p) : HandsOver q pre w refs := by
  intro a
  obtain ⟨os, harena, hrefs⟩ := hw a
  exact ⟨os, harena, fun hq => hrefs (h hq)⟩

/-- Handles given earlier stand before those of the writing. -/
theorem HandsOver.after {w : Writing α} {refs : α → List Handle} (hw : HandsOver p [] w refs)
    (pre : List Handle) : HandsOver p pre w fun x => pre ++ refs x := by
  intro a
  obtain ⟨os, harena, hrefs⟩ := hw a
  refine ⟨os, harena, fun hp x hx => ?_⟩
  show pre ++ (a.putAll os).1 = pre ++ refs x
  rw [← hrefs hp x hx, List.nil_append]

/-- A result that does not concern the arena hands nothing over. -/
theorem HandsOver.ofResult {e : Except Failure α} {refs : α → List Handle}
    (h : p → ∀ x, e = .ok x → pre = refs x) : HandsOver p pre (ofResult e) refs := by
  intro a
  rw [runOn_ofResult]
  refine ⟨[], rfl, fun hp x hx => ?_⟩
  rw [← h hp x hx]
  exact List.append_nil pre

/-- To give a value hands nothing over. -/
theorem HandsOver.pure {x : α} {refs : α → List Handle} (h : p → pre = refs x) :
    HandsOver p pre (pure x) refs := by
  refine HandsOver.ofResult (e := .ok x) fun hp y hy => ?_
  cases hy
  exact h hp

/-- A failure hands nothing over. -/
theorem HandsOver.error {f : Failure} {refs : α → List Handle} :
    HandsOver p pre (Writing.ofResult (.error f)) refs :=
  HandsOver.ofResult fun _ x hx => by cases hx

/-- One hand-over gives the handle that the cell refers to. -/
theorem HandsOver.handOver (o : Arena → Object) :
    HandsOver p [] (ofArena fun a => a.handOver (o a)) Cell.references := by
  intro a
  rw [runOn_ofArena]
  refine ⟨[o a], rfl, fun _ c hc => ?_⟩
  cases hc
  exact (Cell.references_reference _ _).symm

/-- One writing after another: the references of the first are the handles given before the second.
-/
theorem HandsOver.bind {w : Writing α} {k : α → Writing β} {mid : α → List Handle}
    {refs : β → List Handle} (hw : HandsOver p pre w mid)
    (hk : ∀ x, HandsOver p (mid x) (k x) refs) : HandsOver p pre (w >>= k) refs := by
  intro a
  obtain ⟨os, harena, hmid⟩ := hw a
  cases hr : (w.runOn a).1 with
  | error f =>
    rw [runOn_bind_of_error (Prod.ext hr rfl)]
    refine ⟨os, harena, fun _ y hy => ?_⟩
    cases hy
  | ok x =>
    obtain ⟨ps, harena', hrefs⟩ := hk x (a.putAll os).2
    rw [runOn_bind_of_ok (Prod.ext hr harena)]
    refine ⟨os ++ ps, ?_, fun hp y hy => ?_⟩
    · rw [Arena.putAll_append]
      exact harena'
    · rw [Arena.putAll_append, ← List.append_assoc, hmid hp x hr]
      exact hrefs hp y hy

/-- What is written by the outcome of a look-up, which gives no handle. -/
theorem HandsOver.ofResult_bind {e : Except Failure β} {k : β → Writing α}
    {refs : α → List Handle} (hk : ∀ x, HandsOver p [] (k x) refs) :
    HandsOver p [] (Writing.ofResult e >>= k) refs := by
  have hlookup : HandsOver p [] (Writing.ofResult e) fun _ => [] :=
    HandsOver.ofResult fun _ _ _ => rfl
  exact HandsOver.bind hlookup hk

/-! ## Values that are not looked into -/

/-- A native value is handed over under the one reference of its cell. -/
theorem handsOver_writeObject (v : Value) :
    HandsOver (v.isNative = true) [] (writeObject v) Cell.references := by
  cases v with
  | object o => exact HandsOver.handOver fun _ => o
  | handle h t =>
    refine HandsOver.pure fun hn => ?_
    cases hn
  | _ => exact HandsOver.handOver fun a => Object.wrapping (.parked a.next) _

/-- A cell that holds a number, a truth value or a text brings no references. -/
theorem handsOver_of_gives {kind : CellKind} {e : Except Failure Cell} (hk : kind.isScalar = true)
    (h : Scalar.Gives kind e) : HandsOver p [] (ofResult e) Cell.references := by
  refine HandsOver.ofResult fun _ c hc => (Cell.references_of_isScalar ?_).symm
  subst hc
  have hkind : c.kind = kind := h
  rw [hkind, hk]

/-- A form that does not look into containers hands a native value over, or writes a cell without
references. -/
theorem handsOver_writeWhole (form : ConverterForm) (kind : CellKind) (declared : DeclType)
    (v : Value) : HandsOver (v.isNative = true) [] (writeWhole form kind declared v)
      Cell.references := by
  cases form with
  | numeric p =>
    obtain ⟨used, hused, hgives⟩ := Scalar.exists_gives_writeNumeric p kind v
    exact handsOver_of_gives (by rcases hused with rfl | rfl <;> rfl) hgives
  | logical => exact handsOver_of_gives rfl (Scalar.gives_writeLogical v)
  | logicalNumeric => exact handsOver_of_gives rfl (Scalar.gives_writeLogicalNumeric v)
  | text => exact handsOver_of_gives rfl (Scalar.gives_writeText v)
  | textNumeric => exact handsOver_of_gives rfl (Scalar.gives_writeTextNumeric v)
  | charText => exact handsOver_of_gives rfl (Scalar.gives_writeCharText v)
  | date => exact handsOver_of_gives rfl (Scalar.gives_writeDate v)
  | dateTime => exact handsOver_of_gives rfl (Scalar.gives_writeDateTime v)
  | list => exact HandsOver.error
  | set => exact HandsOver.error
  | map => exact HandsOver.error
  | array => exact HandsOver.error
  | handle =>
    refine HandsOver.ofResult fun hn c hc => ?_
    cases v <;> simp_all [writeHandle, Value.isNative]
  | cell =>
    refine HandsOver.ofResult fun hn c hc => ?_
    cases v <;> simp_all [writeCell, Value.isNative]
  | objectHandle => exact handsOver_writeObject v

end Writing

namespace Registry

open Writing

variable (r : Registry)

/-! ## Containers -/

section

variable {r}

/-- What holds of every writing of a value by a converter holds of writing it as an element. -/
theorem handsOver_writeElement {v : Value} (elem : Option DeclType)
    (hv : ∀ k declared, HandsOver (v.isNative = true) [] (r.writeWith k declared v)
      Cell.references) :
    HandsOver (v.isNative = true) [] (r.writeElement elem v) Cell.references := by
  by_cases hn : v = .null
  · subst hn
    rw [writeElement_null]
    exact HandsOver.pure fun _ => Cell.references_missing.symm
  · rw [writeElement_of_ne_null r elem hn]
    exact HandsOver.ofResult_bind fun k => hv k _

/-- Elements are written one after the other, and so are their references. -/
theorem handsOver_writeItems (items : List Value) (elem : Option DeclType)
    (hitems : ∀ v ∈ items, ∀ k declared, HandsOver (v.isNative = true) []
      (r.writeWith k declared v) Cell.references) :
    HandsOver (Value.allNative items = true) [] (r.writeItems elem items)
      fun cells => cells.flatMap Cell.references := by
  induction items with
  | nil =>
    rw [writeItems_nil]
    exact HandsOver.pure fun _ => rfl
  | cons v vs ih =>
    have hfirst := handsOver_writeElement elem (hitems v List.mem_cons_self)
    have hrest := ih fun u hu => hitems u (List.mem_cons_of_mem _ hu)
    have hboth : Value.allNative (v :: vs) = true →
        v.isNative = true ∧ Value.allNative vs = true := by
      rw [Value.allNative, Bool.and_eq_true]
      exact id
    rw [writeItems_cons]
    refine HandsOver.bind (hfirst.weaken fun h => (hboth h).1) fun c => ?_
    refine HandsOver.bind ((hrest.weaken fun h => (hboth h).2).after c.references) fun cs => ?_
    exact HandsOver.pure fun _ => (List.flatMap_cons).symm

/-- Entries are written one after the other, the key of each before its value. -/
theorem handsOver_writeEntries (entries : List (Value × Value)) (keys values : Option DeclType)
    (hentries : ∀ e ∈ entries, ∀ v ∈ [e.1, e.2], ∀ k declared, HandsOver (v.isNative = true) []
      (r.writeWith k declared v) Cell.references) :
    HandsOver (Value.allNativeEntries entries = true) [] (r.writeEntries keys values entries)
      fun rows => rows.flatten.flatMap Cell.references := by
  induction entries with
  | nil =>
    rw [writeEntries_nil]
    exact HandsOver.pure fun _ => rfl
  | cons e es ih =>
    obtain ⟨x, y⟩ := e
    have hhead := hentries (x, y) List.mem_cons_self
    have hx := handsOver_writeElement keys (hhead x (by simp))
    have hy := handsOver_writeElement values (hhead y (by simp))
    have hrest := ih fun e he => hentries e (List.mem_cons_of_mem _ he)
    have hall : Value.allNativeEntries ((x, y) :: es) = true →
        x.isNative = true ∧ y.isNative = true ∧ Value.allNativeEntries es = true := by
      rw [Value.allNativeEntries, Bool.and_eq_true, Bool.and_eq_true, and_assoc]
      exact id
    rw [writeEntries_cons]
    refine HandsOver.bind (hx.weaken fun h => (hall h).1) fun c => ?_
    refine HandsOver.bind ((hy.weaken fun h => (hall h).2.1).after c.references) fun d => ?_
    refine HandsOver.bind ((hrest.weaken fun h => (hall h).2.2).after _) fun rows => ?_
    exact HandsOver.pure fun _ => by simp

end

/-! ## Every value -/

/-- **Writing by a converter hands objects over**, and a native value's cell carries their handles.
-/
theorem handsOver_writeWith (k : Converter) (declared : DeclType) (v : Value) :
    HandsOver (v.isNative = true) [] (r.writeWith k declared v) Cell.references := by
  induction v using Value.induction generalizing k declared with
  | step v ih =>
    -- a container whose form looks into it is laid out, and any other value is taken as a whole
    have hlist : ∀ items : List Value, v.parts = items → ∀ orientation : Orientation,
        HandsOver (Value.allNative items = true) []
          (do let cells ← r.writeItems (elementType declared) items
              Pure.pure (layOut orientation items cells)) Cell.references := by
      intro items hparts orientation
      have hitems := handsOver_writeItems (r := r) items (elementType declared)
        fun u hu k declared => ih u (hparts ▸ hu) k declared
      refine HandsOver.bind hitems fun cells => ?_
      exact HandsOver.pure fun _ => (references_layOut _ _ _).symm
    cases v with
    | null =>
      rw [writeWith_null]
      split
      · exact HandsOver.pure fun _ => Cell.references_missing.symm
      · exact HandsOver.error
    | list items =>
      rw [writeWith]
      split
      · exact (hlist items rfl _).weaken fun h => by rwa [Value.isNative] at h
      · exact handsOver_writeWhole _ _ _ _
    | array items =>
      rw [writeWith]
      split
      · exact (hlist items rfl _).weaken fun h => by rwa [Value.isNative] at h
      · exact handsOver_writeWhole _ _ _ _
    | set items =>
      rw [writeWith]
      split
      · exact (hlist items rfl _).weaken fun h => by rwa [Value.isNative] at h
      · exact handsOver_writeWhole _ _ _ _
    | map entries =>
      rw [writeWith]
      split
      · have hentries := handsOver_writeEntries (r := r) entries (keyType declared)
          (valueType declared) fun e he u hu k declared =>
            ih u (List.mem_flatMap.2 ⟨e, he, hu⟩) k declared
        refine HandsOver.bind (hentries.weaken fun h => by rwa [Value.isNative] at h)
          fun rows => ?_
        exact HandsOver.pure fun _ => (references_layOutRows _).symm
      · exact handsOver_writeWhole _ _ _ _
    | _ =>
      rw [writeWith_of_not_nested r k declared (by simp) rfl]
      exact handsOver_writeWhole _ _ _ _

/-- What is written by the type that it shows hands over the references of its cell. -/
theorem handsOver_writeValue (v : Value) :
    HandsOver (v.isNative = true) [] (r.writeValue v) Cell.references := by
  cases ht : v.type? with
  | none =>
    rw [Value.type?_eq_none_iff.1 ht, writeValue_null]
    exact HandsOver.pure fun _ => Cell.references_missing.symm
  | some type =>
    rw [writeValue_of_type r ht]
    exact HandsOver.ofResult_bind fun k => r.handsOver_writeWith k type v

/-- What is written for a declared type hands over the references of its cell. -/
theorem handsOver_write (declared : DeclType) (v : Value) :
    HandsOver (v.isNative = true) [] (r.write declared v) Cell.references := by
  cases ho : declared.isOpen with
  | true =>
    rw [write_of_open r ho]
    exact r.handsOver_writeValue v
  | false =>
    rw [write_of_closed r ho]
    exact HandsOver.ofResult_bind fun k => r.handsOver_writeWith k declared v

end Registry

/-! ## Results of members -/

namespace Binding

open Writing

variable {σ : Type}

/-- A result that passes as it is hands over the references of its cell. -/
theorem handsOver_passResult (v : Value) :
    HandsOver (v.isNative = true) [] (passResult v) Cell.references := by
  unfold passResult
  split
  · refine HandsOver.pure fun hn => ?_
    cases hn
  · exact handsOver_writeObject _

/-- A result that is boxed hands over the references of its cell. -/
theorem handsOver_boxResult (v : Value) :
    HandsOver (v.isNative = true) [] (boxResult v) Cell.references := by
  unfold boxResult
  split
  · refine HandsOver.pure fun hn => ?_
    cases hn
  · exact handsOver_writeObject _

/-- **Turning a result into a cell hands objects over**, and a native result's cell carries their
handles. -/
theorem handsOver_marshal (b : Binding σ) (v : Value) :
    HandsOver (v.isNative = true) [] (b.marshal v) Cell.references := by
  unfold marshal
  split
  · exact HandsOver.pure fun _ => Cell.references_missing.symm
  · split
    · exact b.registry.handsOver_writeWith _ _ v
    · exact b.registry.handsOver_writeValue v
    · exact handsOver_passResult v
    · exact handsOver_boxResult v

end Binding

/-! ## The accounts of a cell -/

namespace Writing

/-- A cell carries the handles of the objects that were handed over for it. -/
theorem HandsOver.exists_putAll {p : Prop} {w : Writing Cell} {a b : Arena} {c : Cell}
    (hw : HandsOver p [] w Cell.references) (hp : p) (hr : w.runOn a = (.ok c, b)) :
    ∃ os, a.putAll os = (c.references, b) := by
  obtain ⟨os, harena, hrefs⟩ := hw a
  rw [hr] at harena hrefs
  refine ⟨os, Prod.ext ?_ harena.symm⟩
  exact hrefs hp c rfl

/-- The ways in which a value comes to a cell: written by a registry for a declared type, or turned
into one as the result of a bound member. -/
inductive Writes (v : Value) : Writing Cell → Prop where
  | declared (r : Registry) (type : DeclType) : Writes v (r.write type v)
  | result {σ : Type} (bound : Binding σ) : Writes v (bound.marshal v)

/-- In whatever way a value comes to a cell, it hands over the references of the cell. -/
theorem Writes.handsOver {v : Value} {w : Writing Cell} (hw : Writes v w) :
    HandsOver (v.isNative = true) [] w Cell.references := by
  cases hw with
  | declared r type => exact r.handsOver_write type v
  | result bound => exact bound.handsOver_marshal v

/-- **References are taken for the cells that tell of them, and for no others.** Let a value without
references of its own be written, and give a cell. Then the references of every handle rise by the
number of times that the cell carries it, the handles that name an object are those that did and
those in the cell, and what named an object still names it. So, where references are counted, a host
that gives back what it received, each handle as often as it came and in whatever order, succeeds
with every release and has the entries as they were before. -/
theorem refs_eq_of_written (v : Value) (hv : v.isNative = true) (w : Writing Cell)
    (hw : Writes v w) (a b : Arena) (ha : a.Consistent) (c : Cell)
    (hr : w.runOn a = (.ok c, b)) :
    (∀ h, b.refs h = a.refs h + c.references.count h) ∧
      (∀ h, b.holds h = true ↔ a.holds h = true ∨ h ∈ c.references) ∧
      (∀ h o, a.get h = .ok o → b.get h = .ok o) ∧
      (a.retention = .counted → ∀ hs : List Handle, hs.Perm c.references →
        (∀ reply ∈ (b.serveAll (hs.map .release)).1, reply.isReleased = true) ∧
          ∀ h, (b.serveAll (hs.map .release)).2.byHandle.find? h = a.byHandle.find? h) := by
  obtain ⟨os, hos⟩ : ∃ os, a.putAll os = (c.references, b) := hw.handsOver.exists_putAll hv hr
  refine ⟨fun h => ?_, fun h => ?_, fun h o hg => ?_, fun hk hs hperm => ?_⟩
  · have hrefs := ha.refs_putAll os h
    rwa [hos] at hrefs
  · have hholds := ha.holds_putAll_iff os h
    rwa [hos] at hholds
  · have hget := ha.get?_putAll (Arena.get?_of_get hg) os
    rw [hos] at hget
    exact Arena.get_of_some hget
  · have hback := ha.restores_putAll hk os hs (by rwa [hos])
    rwa [hos] at hback

/-- A list that holds an object that is held already, and again beside another in a list of its own:
the grid carries one handle twice and is filled up with missing cells. -/
theorem refs_eq_of_written_nested :
    let curve : Object := { identity := .made 7, classId := { name := "Curve" }, content := none }
    let bond : Object := { identity := .made 8, classId := { name := "Bond" }, content := none }
    let a := (({ retention := .counted } : Arena).put curve).2
    let v : Value := .list [.object curve, .list [.object curve, .object bond]]
    let w := (Registry.stock .column).write (.plain .list) v
    let c : Cell :=
      .grid [[.reference 1 "Curve", .missing], [.reference 1 "Curve", .reference 2 "Bond"]]
    ∃ b, w.runOn a = (.ok c, b) ∧ (b.refs 1 = 3 ∧ b.refs 2 = 1) ∧
      ∀ h, (b.serveAll [.release 1, .release 2, .release 1]).2.byHandle.find? h =
        a.byHandle.find? h := by
  intro curve bond a v w c
  refine ⟨(w.runOn a).2, rfl, ?_⟩
  have ha : a.Consistent := (Arena.consistent_empty .counted).put curve
  obtain ⟨hrefs, -, -, hback⟩ :=
    refs_eq_of_written v rfl w (.declared _ _) a (w.runOn a).2 ha c rfl
  refine ⟨⟨hrefs 1, hrefs 2⟩, (hback rfl [1, 2, 1] ?_).2⟩
  show [1, 2, 1].Perm [1, 1, 2]
  decide

end Writing

end CellMarshal
