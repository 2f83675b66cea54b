import CellMarshal.Binding.Overload
import CellMarshal.Class.Definition
import CellMarshal.Proofs.Traversal
import Mathlib.Data.Option.Basic

/-!
# The slots of a binding

A binding is made for arguments of certain kinds and carries, for every parameter, a converter that
was looked up under the declared type. What later steps rely on is not the kinds but this type: a
slot is for the parameter at its place, and so is the array of a variadic member. `Binding.IsFor`
says so of a binding, and the theorem here is that every binding that a `Binder` makes has the
property. Main statements: `bind?_eq_some_iff` and `exists_of_field` (what binding a member or
a field consists of) and `isFor_of_bind?`.
-/

namespace CellMarshal

variable {σ : Type}

/-! ## Slots and parameters -/

/-- A slot for one argument is for a parameter: declared as it, with a converter, if any, that
produces what the parameter can hold. -/
def ParamSlot.IsFor (type : DeclType) (slot : ParamSlot) : Prop :=
  slot.declared = type ∧ ∀ k ∈ slot.converter, k.produces type = true

/-- A slot for further arguments is for an array parameter. -/
def VarargSlot.IsFor (type : DeclType) (va : VarargSlot) : Prop :=
  va.arrayType = type ∧ va.converter.produces type = true

/-- A binding is for a member of a class: it has one slot for each fixed parameter, one for the
array of a variadic member and none otherwise, and takes a receiver where the member does. -/
structure Binding.IsFor (b : Binding σ) (cls : ClassDef σ) (m : Member σ) : Prop where
  cls_eq : b.cls = cls
  takesReceiver_eq : b.takesReceiver = !m.isStatic
  params : List.Forall₂ ParamSlot.IsFor m.fixedParams b.params
  varargs : Option.Rel VarargSlot.IsFor m.vararg? b.varargs

/-- A binding for a member of fixed arity has no slot for further arguments. -/
theorem Binding.IsFor.varargs_eq_none {b : Binding σ} {cls : ClassDef σ} {m : Member σ}
    (hb : b.IsFor cls m) (h : m.vararg? = none) : b.varargs = none := by
  have hrel := hb.varargs
  rw [h] at hrel
  cases hv : b.varargs with
  | none => rfl
  | some va =>
    rw [hv] at hrel
    cases hrel

/-- A binding for a variadic member has a slot for its array. -/
theorem Binding.IsFor.exists_varargs_eq_some {b : Binding σ} {cls : ClassDef σ} {m : Member σ}
    (hb : b.IsFor cls m) {type : DeclType} (h : m.vararg? = some type) :
    ∃ va, b.varargs = some va ∧ va.IsFor type := by
  have hrel := hb.varargs
  rw [h] at hrel
  cases hv : b.varargs with
  | none =>
    rw [hv] at hrel
    cases hrel
  | some va =>
    rw [hv, Option.rel_some_some] at hrel
    exact ⟨va, rfl, hrel⟩

/-- A class that was built has an array as the last parameter of a variadic member. -/
theorem Member.exists_vararg?_eq_array {d : ClassDraft σ} {cls : ClassDef σ} {m : Member σ}
    (hd : d.build = .ok cls) (hm : m ∈ cls.constructors ++ cls.methods)
    (hv : m.isVariadic = true) : ∃ c, m.vararg? = some (.array c) := by
  have hf := ClassDraft.memberFault?_of_build hd hm
  have hlast : m.params.getLast?.any DeclType.isArray = true := by
    unfold ClassDraft.memberFault? at hf
    rw [hv, Bool.true_and] at hf
    split at hf
    · cases hf
    · rename_i h
      simpa using h
  obtain ⟨t, ht, harr⟩ := (Option.any_eq_true ..).1 hlast
  cases t with
  | array c => exact ⟨c, by rw [vararg?, if_pos hv, ht]⟩
  | _ => cases harr

namespace Binder

variable {b : Binder} {cls : ClassDef σ} {m : Member σ} {kinds : List CellKind}
  {bound : Binding σ}

/-! ## What binding consists of -/

/-- A slot that is made for a parameter is for it. -/
theorem isFor_of_slot? {declared : DeclType} {kind : CellKind} {slot : ParamSlot}
    (h : b.slot? declared kind = some slot) : slot.IsFor declared := by
  unfold slot? at h
  split at h
  · cases h
    refine ⟨rfl, fun k hk => ?_⟩
    cases hk
  · obtain ⟨k, hk, rfl⟩ := Option.map_eq_some_iff.1 h
    refine ⟨rfl, fun k' hk' => ?_⟩
    cases hk'
    exact (Registry.of_reader?_eq_some hk).2.2

/-- The converter for the further arguments together is looked up for grids. -/
theorem reader?_of_varargs? {arrayType : DeclType} {tail : List CellKind} {va : VarargSlot}
    {scores : List Int32} (h : b.varargs? arrayType tail = some (va, scores)) :
    va.arrayType = arrayType ∧ b.registry.reader? arrayType .grid = some va.converter := by
  obtain ⟨component, -, h⟩ := Option.bind_eq_some_iff.1 h
  obtain ⟨scores', -, h⟩ := Option.bind_eq_some_iff.1 h
  obtain ⟨k, hk, h⟩ := Option.bind_eq_some_iff.1 h
  cases h
  exact ⟨rfl, hk⟩

/-- The array of a variadic member gets a slot of its own, and no other member has one. -/
theorem tail?_cases {tail : List CellKind} {va : Option VarargSlot} {scores : List Int32}
    (h : b.tail? m tail = some (va, scores)) :
    (m.vararg? = none ∧ va = none) ∨
      ∃ v, m.vararg? = some v.arrayType ∧ va = some v ∧
        b.registry.reader? v.arrayType .grid = some v.converter := by
  unfold tail? at h
  split at h
  · rename_i hn
    cases h
    exact Or.inl ⟨hn, rfl⟩
  · rename_i arrayType hs
    obtain ⟨⟨v, scores'⟩, hv, h⟩ := Option.map_eq_some_iff.1 h
    cases h
    obtain ⟨rfl, hk⟩ := reader?_of_varargs? hv
    exact Or.inr ⟨v, hs, rfl, hk⟩

/-- What is bound for further arguments is for the array of the member, or nothing where it has
none. -/
theorem rel_of_tail? {tail : List CellKind} {va : Option VarargSlot} {scores : List Int32}
    (h : b.tail? m tail = some (va, scores)) : Option.Rel VarargSlot.IsFor m.vararg? va := by
  rcases tail?_cases h with ⟨hm, rfl⟩ | ⟨v, hm, rfl, hk⟩
  · rw [hm]
    exact Option.Rel.none
  · rw [hm]
    exact Option.Rel.some ⟨rfl, (Registry.of_reader?_eq_some hk).2.2⟩

/-- A number of arguments that fits a member suffices for its fixed parameters. -/
theorem length_le_of_fitsArity {n : Nat} (h : fitsArity m n = true) :
    m.fixedParams.length ≤ n := by
  unfold fitsArity at h
  split at h
  · exact of_decide_eq_true h
  · exact Nat.le_of_eq (of_decide_eq_true h).symm

/-- **What binding a member consists of**: kinds for the receiver and for the arguments, an arity
that fits, a slot for each fixed parameter, and what the further arguments come to. -/
theorem bind?_eq_some_iff :
    b.bind? cls m kinds = some bound ↔
      ∃ rest slots va scores,
        afterReceiver? m kinds = some rest ∧ fitsArity m rest.length = true ∧
        List.Forall₂ (fun p s => b.slot? p.1 p.2 = some s) (m.fixedParams.zip rest) slots ∧
        b.tail? m (rest.drop m.fixedParams.length) = some (va, scores) ∧
        bound =
          { cls := cls
            target := .member m
            takesReceiver := !m.isStatic
            params := slots
            varargs := va
            resultType := m.result
            plan := .ofType b.registry m.result
            score := total (slots.map slotScore ++ scores)
            registry := b.registry
            guarded := b.guarded } := by
  unfold bind?
  constructor
  · intro h
    obtain ⟨rest, hrest, h⟩ := Option.bind_eq_some_iff.1 h
    obtain ⟨u, hfits, h⟩ := Option.bind_eq_some_iff.1 h
    obtain ⟨slots, hslots, h⟩ := Option.bind_eq_some_iff.1 h
    obtain ⟨⟨va, scores⟩, htail, h⟩ := Option.bind_eq_some_iff.1 h
    cases h
    exact ⟨rest, slots, va, scores, hrest, (Option.guard_eq_some' u).1 hfits,
      mapM_eq_some_iff.1 hslots, htail, rfl⟩
  · rintro ⟨rest, slots, va, scores, hrest, hfits, hslots, htail, rfl⟩
    refine Option.bind_eq_some_iff.2 ⟨rest, hrest, ?_⟩
    refine Option.bind_eq_some_iff.2 ⟨(), (Option.guard_eq_some' ()).2 hfits, ?_⟩
    refine Option.bind_eq_some_iff.2 ⟨slots, mapM_eq_some_iff.2 hslots, ?_⟩
    exact Option.bind_eq_some_iff.2 ⟨(va, scores), htail, rfl⟩

/-- A binding runs the member that it was made for, and has the registry of its binder. -/
theorem target_of_bind? (h : b.bind? cls m kinds = some bound) :
    bound.target = .member m ∧ bound.registry = b.registry := by
  obtain ⟨rest, slots, va, scores, -, -, -, -, rfl⟩ := bind?_eq_some_iff.1 h
  exact ⟨rfl, rfl⟩

/-- What binding a field consists of: the field, and a receiver unless it is static. -/
theorem exists_of_field {name : String} {args : List Cell}
    (h : b.field cls name args = .ok bound) :
    ∃ f, cls.field? name = some f ∧
      bound =
        { cls := cls
          target := .field f
          takesReceiver := !f.isStatic
          params := []
          varargs := none
          resultType := f.type
          plan := .ofType b.registry f.type
          score := 0
          registry := b.registry
          guarded := b.guarded } := by
  rcases hf : cls.field? name with _ | f
  · simp [field, hf] at h
  · simp only [field, hf] at h
    by_cases hargs : args.length ≠ if f.isStatic then 0 else 1
    · rw [if_pos hargs] at h
      cases h
    · rw [if_neg hargs] at h
      cases h
      exact ⟨f, rfl, rfl⟩

/-- **Every binding is for the member that it was made for**, whatever the kinds were. -/
theorem isFor_of_bind? (h : b.bind? cls m kinds = some bound) : bound.IsFor cls m := by
  obtain ⟨rest, slots, va, scores, -, hfits, hslots, htail, rfl⟩ := bind?_eq_some_iff.1 h
  refine ⟨rfl, rfl, ?_, rel_of_tail? htail⟩
  -- The slots were made pair by pair, and no parameter is left without a pair.
  rw [← List.map_fst_zip (length_le_of_fitsArity hfits), List.forall₂_map_left_iff]
  exact hslots.imp fun p s hs => isFor_of_slot? hs

end Binder

end CellMarshal
