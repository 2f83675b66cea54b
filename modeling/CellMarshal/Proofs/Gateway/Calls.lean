import CellMarshal.Gateway
import CellMarshal.Proofs.Writing.Atomic
import CellMarshal.Proofs.Writing.HandOver

/-!
# What calls do to the arena

A host constructs objects, calls methods and reads fields; `Operation` has the three under one
head. A call goes through five stages: it is looked up, its receiver and its arguments are bound,
the body runs, and the value that the body came to is written. None of the first four touches the
arena (`perform_of_stopped`), and the last hands objects over (`exists_putAll_perform`).

So a call that fails in one of the first four leaves the arena as it was. One that fails in the last
does too where the value is written as a whole (`Binding.atomic_marshal`). Where it is a container,
its parts are written one after the other, and what was handed over for the first of them stays
handed over when a later one fails: its references are counted, and no cell tells the host of them.
Main statement: `entries_of_failed`.
-/

namespace CellMarshal.Gateway

variable {σ : Type}

/-! ## Calls -/

/-- What a host can call. -/
inductive Operation where
  | construct (cls : String) (args : List Cell)
  | call (cls method : String) (args : List Cell)
  | getField (cls field : String) (args : List Cell)

/-- The arguments of a call. -/
def Operation.args : Operation → List Cell
  | construct _ args | call _ _ args | getField _ _ args => args

/-- What a call is bound to. -/
def lookup (g : Gateway σ) : Operation → Except Failure (Binding σ)
  | .construct cls args => g.catalog.get cls >>= fun c => g.binder.constructor c args
  | .call cls method args => g.catalog.get cls >>= fun c => g.binder.method c method args
  | .getField cls field args => g.catalog.get cls >>= fun c => g.binder.field c field args

/-- Carries a call out. -/
def perform (g : Gateway σ) : Operation → Except Abort Cell × Gateway σ
  | .construct cls args => g.construct cls args
  | .call cls method args => g.call cls method args
  | .getField cls field args => g.getField cls field args

/-- To carry a call out is to look up what it is bound to and to invoke that. -/
theorem perform_eq_invoke (g : Gateway σ) (op : Operation) :
    g.perform op = g.invoke (g.lookup op) op.args := by
  cases op with
  | construct cls args => rfl
  | call cls method args => rfl
  | getField cls field args => rfl

/-- The call comes to a value: it is bound, its receiver and arguments are, and the body gives the
value. What is left is to write it. -/
def ComesTo (g : Gateway σ) (op : Operation) (bound : Binding σ) (v : Value) : Prop :=
  ∃ receiver values, g.lookup op = .ok bound ∧
    bound.bindCall g.host.arena op.args = .ok (receiver, values) ∧
    bound.settle ((bound.runBody receiver values).run g.host.world).1 = .ok v

/-- The value that a call comes to is written, and the writing decides what becomes of the arena. -/
theorem perform_of_comesTo {g : Gateway σ} {op : Operation} {bound : Binding σ} {v : Value}
    (h : g.ComesTo op bound v) :
    (g.perform op).1 = ((bound.marshal v).runOn g.host.arena).1.mapError .failure ∧
      (g.perform op).2.host.arena = ((bound.marshal v).runOn g.host.arena).2 := by
  obtain ⟨receiver, values, hlookup, hbind, hbody⟩ := h
  rw [perform_eq_invoke, hlookup, invoke_ok, Binding.invoke_of_value hbind hbody]
  exact ⟨rfl, rfl⟩

/-- A call that comes to a value and fails does so because the writing of the value does. -/
theorem ComesTo.writing_of_error {g : Gateway σ} {op : Operation} {bound : Binding σ} {v : Value}
    (h : g.ComesTo op bound v) {e : Abort} (he : (g.perform op).1 = .error e) :
    ∃ f, ((bound.marshal v).runOn g.host.arena).1 = .error f ∧ e = .failure f := by
  have hresult := (perform_of_comesTo h).1
  rw [he] at hresult
  cases hw : ((bound.marshal v).runOn g.host.arena).1 with
  | ok c =>
    rw [hw] at hresult
    cases hresult
  | error f =>
    rw [hw] at hresult
    cases hresult
    exact ⟨f, rfl, rfl⟩

/-- A call that comes to no value has failed before anything was written, and the arena is as it
was. -/
theorem perform_of_stopped {g : Gateway σ} {op : Operation}
    (h : ∀ bound v, ¬ g.ComesTo op bound v) :
    (∃ e, (g.perform op).1 = .error e) ∧ (g.perform op).2.host.arena = g.host.arena := by
  rw [perform_eq_invoke]
  cases hlookup : g.lookup op with
  | error f =>
    rw [invoke_error]
    exact ⟨⟨_, rfl⟩, rfl⟩
  | ok bound =>
    rw [invoke_ok]
    cases hbind : bound.bindCall g.host.arena op.args with
    | error f =>
      rw [Binding.invoke_of_bind_error hbind]
      exact ⟨⟨_, rfl⟩, rfl⟩
    | ok taken =>
      obtain ⟨receiver, values⟩ := taken
      cases hbody : bound.settle ((bound.runBody receiver values).run g.host.world).1 with
      | error e =>
        rw [Binding.invoke_of_body_error hbind hbody]
        exact ⟨⟨_, rfl⟩, rfl⟩
      | ok v => exact absurd ⟨receiver, values, hlookup, hbind, hbody⟩ (h bound v)

/-- **A call hands objects over**, and does nothing else to the arena, whatever becomes of it. -/
theorem exists_putAll_perform (g : Gateway σ) (op : Operation) :
    ∃ os, (g.perform op).2.host.arena = (g.host.arena.putAll os).2 := by
  by_cases h : ∃ bound v, g.ComesTo op bound v
  · obtain ⟨bound, v, hcomes⟩ := h
    obtain ⟨os, harena, -⟩ := bound.handsOver_marshal v g.host.arena
    exact ⟨os, (perform_of_comesTo hcomes).2.trans harena⟩
  · have hstop : ∀ bound v, ¬ g.ComesTo op bound v := fun bound v hcomes => h ⟨bound, v, hcomes⟩
    exact ⟨[], (perform_of_stopped hstop).2⟩

/-! ## Calls that fail -/

/-- **What a failed call leaves behind.** The arena after a call that failed is the one that some
hand-overs leave; its entries are those from before exactly where there were none. Where there were
some, the call came to a container, and the writing of the container failed. -/
theorem entries_of_failed (g : Gateway σ) (hg : g.host.arena.Consistent) (op : Operation)
    (e : Abort) (he : (g.perform op).1 = .error e) :
    ∃ os, (g.perform op).2.host.arena = (g.host.arena.putAll os).2 ∧
      ((∀ h, (g.perform op).2.host.arena.byHandle.find? h = g.host.arena.byHandle.find? h) ↔
        os = []) ∧
      (os ≠ [] → ∃ bound v f, g.ComesTo op bound v ∧ v.isNested = true ∧ e = .failure f ∧
        (bound.marshal v).runOn g.host.arena = (.error f, (g.perform op).2.host.arena)) := by
  by_cases hcomes : ∃ bound v, g.ComesTo op bound v
  · obtain ⟨bound, v, hcomes⟩ := hcomes
    obtain ⟨hresult, harena⟩ := perform_of_comesTo hcomes
    obtain ⟨os, hos, -⟩ := bound.handsOver_marshal v g.host.arena
    have hafter : (g.perform op).2.host.arena = (g.host.arena.putAll os).2 := harena.trans hos
    have hsame : (∀ h, (g.perform op).2.host.arena.byHandle.find? h =
        g.host.arena.byHandle.find? h) ↔ os = [] := by
      rw [hafter]
      refine ⟨hg.eq_nil_of_putAll, ?_⟩
      rintro rfl h
      rfl
    refine ⟨os, hafter, hsame, fun hne => ?_⟩
    obtain ⟨f, hf, rfl⟩ := hcomes.writing_of_error he
    refine ⟨bound, v, f, hcomes, ?_, rfl, Prod.ext hf harena.symm⟩
    cases hv : v.isNested with
    | true => rfl
    | false =>
      -- what is written as a whole leaves nothing behind
      have hback := bound.atomic_marshal hv g.host.arena f hf
      have hnone : os = [] := hsame.1 fun h => by rw [harena, hback]
      exact absurd hnone hne
  · have hstop : ∀ bound v, ¬ g.ComesTo op bound v :=
      fun bound v h => hcomes ⟨bound, v, h⟩
    have harena := (perform_of_stopped hstop).2
    refine ⟨[], harena, ⟨fun _ => rfl, fun _ h => by rw [harena]⟩, fun hne => ?_⟩
    exact absurd rfl hne

/-- A body that panics past a gateway which does not guard against it: the call fails, and the entry
of the object that is held stays as it is. -/
theorem entries_of_failed_panic :
    let curve : Object := { identity := .made 7, classId := { name := "Curve" }, content := none }
    let quotes : Member Unit :=
      { name := "quotes", params := [], result := .plain .map, isStatic := true
        body := fun _ _ => pure (.panicked (some "no quotes")) }
    let book : ClassDef Unit :=
      { classId := { name := "Book" }, constructors := [], methods := [quotes], fields := [] }
    let g : Gateway Unit :=
      { withSettings { guarded := false } () with
        catalog := { classes := ⟨[("Book", book)]⟩ }
        host := { arena := (({ retention := .counted } : Arena).put curve).2, world := () } }
    let op : Operation := .call "Book" "quotes" []
    (g.perform op).1 = .error (.panic (some "no quotes")) ∧
      ∀ h, (g.perform op).2.host.arena.byHandle.find? h = g.host.arena.byHandle.find? h := by
  intro curve quotes book g op
  have hg : g.host.arena.Consistent := (Arena.consistent_empty .counted).put curve
  have he : (g.perform op).1 = .error (.panic (some "no quotes")) := rfl
  obtain ⟨os, -, hsame, hcontainer⟩ := entries_of_failed g hg op _ he
  refine ⟨he, hsame.2 ?_⟩
  cases os with
  | nil => rfl
  | cons o os =>
    obtain ⟨bound, v, f, -, -, hf, -⟩ := hcontainer (List.cons_ne_nil o os)
    cases hf

/-- A map from an object to a text that should be a number: the object is handed over before the
text fails. The host is told of no handle, and yet the arena holds the object from then on, with a
reference that the host does not know of. -/
theorem entries_of_failed_half_written :
    let curve : Object := { identity := .made 7, classId := { name := "Curve" }, content := none }
    let quotes : Member Unit :=
      { name := "quotes", params := [], isStatic := true
        result := .generic .map [.plain (.named "Curve"), .plain (.boxed .int)]
        body := fun _ _ => pure (.value (.map [(.object curve, .string "n/a")])) }
    let book : ClassDef Unit :=
      { classId := { name := "Book" }, constructors := [], methods := [quotes], fields := [] }
    let g : Gateway Unit :=
      { withSettings { retention := .counted } () with
        catalog := { classes := ⟨[("Book", book)]⟩ } }
    let op : Operation := .call "Book" "quotes" []
    (g.perform op).1 = .error (.failure (.typeMismatch "Integer" "String")) ∧
      g.host.arena.byHandle.find? 1 = none ∧
      (g.perform op).2.host.arena.byHandle.find? 1 = some { object := curve, refs := 1 } :=
  ⟨rfl, rfl, rfl⟩

end CellMarshal.Gateway
