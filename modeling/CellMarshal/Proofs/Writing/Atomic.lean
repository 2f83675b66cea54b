import CellMarshal.Binding.Invoke

/-!
# Writings that leave nothing behind

A writing that fails leaves the arena as it was, unless a container is being written: a value that
is taken as a whole is handed over, which cannot fail, or comes to a cell without the arena.
`Writing.Atomic` says so of a writing. Main statements: `atomic_writeWith`, `atomic_writeValue` and
`atomic_marshal`.
-/

namespace CellMarshal

namespace Writing

variable {α β : Type}

/-- Where the writing fails, the arena is as it was. -/
def Atomic (w : Writing α) : Prop :=
  ∀ a f, (w.runOn a).1 = .error f → (w.runOn a).2 = a

/-- A result that does not concern the arena leaves it, also where it is a failure. -/
theorem Atomic.ofResult (e : Except Failure α) : Atomic (ofResult e) := by
  intro a f _
  rw [runOn_ofResult]

/-- To give a value leaves the arena. -/
theorem Atomic.pure (x : α) : Atomic (pure x) :=
  Atomic.ofResult (.ok x)

/-- A hand-over does not fail. -/
theorem Atomic.ofArena (f : Arena → Cell × Arena) : Atomic (ofArena f) := by
  intro a e he
  rw [runOn_ofArena] at he
  cases he

/-- What is written by the outcome of a look-up. -/
theorem Atomic.ofResult_bind {e : Except Failure β} {k : β → Writing α}
    (hk : ∀ x, Atomic (k x)) : Atomic (Writing.ofResult e >>= k) := by
  intro a f hf
  cases e with
  | error c =>
    rw [runOn_bind_of_error (runOn_ofResult _ a)]
  | ok x =>
    rw [runOn_bind_of_ok (runOn_ofResult _ a)] at hf ⊢
    exact hk x a f hf

/-- Handing a value over does not fail, so there is no failure to change anything. -/
theorem atomic_writeObject (v : Value) : Atomic (writeObject v) := by
  cases v with
  | object o => exact Atomic.ofArena _
  | handle h t => exact Atomic.pure _
  | _ => exact Atomic.ofArena _

/-- Where a form that does not look into containers fails, it leaves the arena. -/
theorem atomic_writeWhole (form : ConverterForm) (kind : CellKind) (declared : DeclType)
    (v : Value) : Atomic (writeWhole form kind declared v) := by
  cases form with
  | objectHandle => exact atomic_writeObject v
  | _ => exact Atomic.ofResult _

end Writing

namespace Registry

open Writing

/-- A value that is no container is written as a whole. -/
theorem atomic_writeWith (r : Registry) (k : Converter) (declared : DeclType) {v : Value}
    (hv : v.isNested = false) : Atomic (r.writeWith k declared v) := by
  by_cases hn : v = .null
  · subst hn
    rw [writeWith_null]
    split
    · exact Atomic.pure _
    · exact Atomic.ofResult _
  · rw [writeWith_of_not_nested r k declared hn hv]
    exact atomic_writeWhole _ _ _ v

/-- Where a value that is no container fails to be written, the arena is as it was. -/
theorem atomic_writeValue (r : Registry) {v : Value} (hv : v.isNested = false) :
    Atomic (r.writeValue v) := by
  cases ht : v.type? with
  | none =>
    rw [Value.type?_eq_none_iff.1 ht, writeValue_null]
    exact Atomic.pure _
  | some type =>
    rw [writeValue_of_type r ht]
    exact Atomic.ofResult_bind fun k => r.atomic_writeWith k type hv

end Registry

namespace Binding

open Writing

variable {σ : Type}

/-- Where a result that is no container fails to become a cell, the arena is as it was. -/
theorem atomic_marshal (b : Binding σ) {v : Value} (hv : v.isNested = false) :
    Atomic (b.marshal v) := by
  unfold marshal
  split
  · exact Atomic.pure _
  · split
    · exact b.registry.atomic_writeWith _ _ hv
    · exact b.registry.atomic_writeValue hv
    · unfold passResult
      split
      · exact Atomic.pure _
      · exact atomic_writeObject _
    · unfold boxResult
      split
      · exact Atomic.pure _
      · exact atomic_writeObject _

end Binding

end CellMarshal
