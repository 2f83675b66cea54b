import CellMarshal.Proofs.Binding.Selected
import CellMarshal.Proofs.Gateway.Calls
import CellMarshal.Proofs.Reading.Tags

/-!
# Calls and the tags of references

The references among the arguments of a call carry tags that the host may have made up. The call
does not depend on them where the member takes no references and no cells as they are: the overload
is chosen by the kinds of the arguments, the receiver is found by its handle and is of the class
that the arena knows, and what is read for a parameter does not depend on tags
(`Registry.read_untagged`). `Binding.IsTagFree` says of a binding what is needed, and holds of every
binding of such a member and of a field. Main statements: `Binding.invoke_untagged`,
`lookup_untagged`, `perform_untagged` and `perform_eq_of_untagged`.
-/

namespace CellMarshal

variable {σ : Type}

/-! ## Bindings without tags -/

/-- A slot for a type without tags, with a converter, if any, that produces values for it. -/
structure ParamSlot.IsTagFree (slot : ParamSlot) : Prop where
  declared : slot.declared.IsTagFree
  converter : ∀ k ∈ slot.converter, k.produces slot.declared = true

/-- A slot for an array without tags. -/
structure VarargSlot.IsTagFree (va : VarargSlot) : Prop where
  arrayType : va.arrayType.IsTagFree
  converter : va.converter.produces va.arrayType = true

/-- A binding all of whose slots are for types without tags. -/
structure Binding.IsTagFree (b : Binding σ) : Prop where
  params : ∀ slot ∈ b.params, slot.IsTagFree
  varargs : ∀ va ∈ b.varargs, va.IsTagFree

namespace Binder

variable {binder : Binder} {cls : ClassDef σ} {bound : Binding σ}

/-- A member whose parameters are all of types without tags has such bindings only. -/
theorem isTagFree_of_bind? {m : Member σ} {kinds : List CellKind}
    (hb : binder.bind? cls m kinds = some bound) (hm : ∀ t ∈ m.params, t.IsTagFree) :
    bound.IsTagFree := by
  have hfor := isFor_of_bind? hb
  constructor
  · intro slot hslot
    obtain ⟨t, ht, hdeclared, hk⟩ := exists_of_mem_left hfor.params.flip hslot
    subst hdeclared
    exact ⟨hm _ (Member.mem_params_of_mem_fixedParams ht), hk⟩
  · intro va hva
    have hvarargs := hfor.varargs
    rw [Option.mem_def.1 hva] at hvarargs
    rcases hs : m.vararg? with _ | t
    · rw [hs] at hvarargs
      cases hvarargs
    · rw [hs, Option.rel_some_some] at hvarargs
      obtain ⟨harr, hk⟩ := hvarargs
      subst harr
      exact ⟨hm _ (Member.mem_params_of_vararg? hs), hk⟩

/-- A field takes no arguments but the receiver. -/
theorem isTagFree_of_field {name : String} {args : List Cell}
    (h : binder.field cls name args = .ok bound) : bound.IsTagFree := by
  obtain ⟨f, -, rfl⟩ := exists_of_field h
  constructor
  · intro slot hslot
    cases hslot
  · intro va hva
    cases hva

end Binder

/-! ## Binding arguments -/

namespace Binding

variable {b : Binding σ} {a : Arena}

/-- The receiver is found by its handle, and no other argument is looked at for it. -/
theorem bindReceiver_untagged (b : Binding σ) (a : Arena) (args : List Cell) :
    b.bindReceiver a (args.map Cell.untagged) =
      (b.bindReceiver a args).map fun p => (p.1, p.2.map Cell.untagged) := by
  cases hr : b.takesReceiver with
  | false =>
    rw [bindReceiver_static hr, bindReceiver_static hr]
    rfl
  | true =>
    cases args with
    | nil =>
      rw [List.map_nil, bindReceiver_nil hr]
      rfl
    | cons c rest =>
      cases c with
      | reference handle tag =>
        simp only [List.map_cons, Cell.untagged]
        cases ho : a.get? handle with
        | none => simp [bindReceiver, hr, Arena.get, ho, bind, Except.bind, Except.map]
        | some o =>
          rw [bindReceiver_reference hr ho, bindReceiver_reference hr ho]
          split
          · rfl
          · rfl
      | _ => simp [bindReceiver, hr, Cell.untagged, Failure.unexpectedCell, Cell.kind, Except.map]

/-- A fixed argument binds to the same without its tags. -/
theorem bindOne_untagged {slot : ParamSlot} (hs : slot.IsTagFree) (position : Nat) (c : Cell) :
    b.bindOne a position slot c.untagged = b.bindOne a position slot c := by
  cases hc : c.isMissing && !slot.declared.isCell with
  | true => rw [bindOne, bindOne, Cell.isMissing_untagged, if_pos hc, if_pos hc]
  | false =>
    have hc' : (c.untagged.isMissing && !slot.declared.isCell) = false := by
      rw [Cell.isMissing_untagged, hc]
    cases hk : slot.converter.filter fun k => k.reads c.kind with
    | none =>
      rw [bindOne_of_unread b a position hc hk,
        bindOne_of_unread b a position hc' (by rw [Cell.kind_untagged, hk]),
        Registry.read_untagged b.registry a _ hs.declared]
    | some k =>
      obtain ⟨hsome, hreads⟩ := Option.filter_eq_some_iff.1 hk
      rw [bindOne_of_converter b a position hc hsome hreads,
        bindOne_of_converter b a position hc' hsome (by rw [Cell.kind_untagged, hreads]),
        Registry.readWith_untagged b.registry a hs.declared (hs.converter k hsome)]

/-- The fixed arguments bind to the same without their tags. -/
theorem bindFixed_untagged {slots : List ParamSlot} (hs : ∀ slot ∈ slots, slot.IsTagFree)
    (position : Nat) (args : List Cell) :
    b.bindFixed a position slots (args.map Cell.untagged) = b.bindFixed a position slots args := by
  induction slots generalizing position args with
  | nil => rfl
  | cons slot slots ih =>
    cases args with
    | nil => rfl
    | cons c cs =>
      rw [List.map_cons, bindFixed, bindFixed, bindOne_untagged (hs slot List.mem_cons_self),
        ih fun s h => hs s (List.mem_cons_of_mem _ h)]

/-- Further arguments do not depend on tags, be they read one by one or as a row. -/
theorem bindTail_untagged {va : VarargSlot} (hva : va.IsTagFree) (tail : List Cell) :
    b.bindTail a va (tail.map Cell.untagged) = b.bindTail a va tail := by
  unfold bindTail
  split
  · rename_i component hcomponent
    have helem := (Option.filter_eq_some_iff.1 hcomponent).1
    have hfree := hva.arrayType.of_mem_args (DeclType.element?_mem_args helem)
    rw [Reading.mapM_map_of_forall fun c => ?_]
    simp only [bindTrailing, Cell.isMissing_untagged,
      Registry.read_untagged b.registry a component hfree]
  · have hrow : Cell.row (tail.map Cell.untagged) = (Cell.row tail).untagged := by
      cases tail with
      | nil => rfl
      | cons c cs => rw [List.map_cons, Cell.row_cons, Cell.row_cons, Cell.untagged_grid]; rfl
    rw [hrow, Registry.readWith_untagged b.registry a hva.arrayType hva.converter]

/-- All arguments bind to the same without their tags. -/
theorem bindArgs_untagged (hb : b.IsTagFree) (args : List Cell) :
    b.bindArgs a (args.map Cell.untagged) = b.bindArgs a args := by
  rw [bindArgs, bindArgs, List.length_map, bindFixed_untagged hb.params, ← List.map_drop]
  cases hva : b.varargs with
  | none => rfl
  | some va => simp only [bindTail_untagged (hb.varargs va hva)]

/-- The receiver and all arguments bind to the same without their tags. -/
theorem bindCall_untagged (hb : b.IsTagFree) (args : List Cell) :
    b.bindCall a (args.map Cell.untagged) = b.bindCall a args := by
  rw [bindCall, bindCall, bindReceiver_untagged]
  cases b.bindReceiver a args with
  | error f => rfl
  | ok taken =>
    obtain ⟨receiver, rest⟩ := taken
    show (b.bindArgs a (rest.map Cell.untagged) >>= _) = (b.bindArgs a rest >>= _)
    rw [bindArgs_untagged hb]

/-- **An invocation does not depend on tags**, whatever kinds of arguments the binding was made for.
-/
theorem invoke_untagged (hb : b.IsTagFree) (args : List Cell) (h : Host σ) :
    b.invoke (args.map Cell.untagged) h = b.invoke args h := by
  rw [invoke, invoke, bindCall_untagged hb]

end Binding

/-! ## Calls -/

namespace Gateway

variable {g : Gateway σ} {bound : Binding σ}

/-- A call with the tags of all references among its arguments taken out. -/
def Operation.untagged : Operation → Operation
  | construct cls args => construct cls (args.map Cell.untagged)
  | call cls method args => call cls method (args.map Cell.untagged)
  | getField cls field args => getField cls field (args.map Cell.untagged)

/-- A call without tags has the arguments of the call, without tags. -/
theorem args_untagged (op : Operation) : op.untagged.args = op.args.map Cell.untagged := by
  cases op <;> rfl

/-- **What a call is bound to does not depend on tags**, since members are chosen by the kinds of
the arguments and fields by their number. -/
theorem lookup_untagged (g : Gateway σ) (op : Operation) : g.lookup op.untagged = g.lookup op := by
  have hkinds : ∀ args : List Cell,
      (args.map Cell.untagged).map Cell.kind = args.map Cell.kind := by
    intro args
    simp
  cases op with
  | construct cls args =>
    simp only [lookup, Operation.untagged, Binder.constructor, hkinds]
  | call cls method args =>
    simp only [lookup, Operation.untagged, Binder.method, hkinds]
  | getField cls field args =>
    simp only [lookup, Operation.untagged, Binder.field, hkinds, List.length_map]

/-- A call is bound to a member whose parameters are all of types without tags, or to a field. -/
def TakesNoTags (bound : Binding σ) : Prop :=
  ∀ m, bound.target = .member m → ∀ t ∈ m.params, t.IsTagFree

/-- A call that takes no tags is bound to slots for types without tags. -/
theorem isTagFree_of_lookup {op : Operation} (h : g.lookup op = .ok bound)
    (hbound : TakesNoTags bound) : bound.IsTagFree := by
  have hbind : ∀ {cls : ClassDef σ} {m : Member σ} {kinds : List CellKind},
      g.binder.bind? cls m kinds = some bound → bound.IsTagFree := by
    intro cls m kinds hb
    exact Binder.isTagFree_of_bind? hb (hbound m (Binder.target_of_bind? hb).1)
  cases op with
  | construct cls args =>
    obtain ⟨c, -, h⟩ := bind_eq_ok_iff.1 h
    obtain ⟨m, -, hb⟩ := Binder.exists_member_of_select h
    exact hbind hb
  | call cls method args =>
    obtain ⟨c, -, h⟩ := bind_eq_ok_iff.1 h
    obtain ⟨m, -, hb⟩ := Binder.exists_member_of_select h
    exact hbind hb
  | getField cls field args =>
    obtain ⟨c, -, h⟩ := bind_eq_ok_iff.1 h
    exact Binder.isTagFree_of_field h

/-- A call does not depend on tags where it is bound to something that takes none. -/
theorem perform_untagged {op : Operation}
    (h : ∀ bound, g.lookup op = .ok bound → TakesNoTags bound) :
    g.perform op.untagged = g.perform op := by
  rw [perform_eq_invoke, perform_eq_invoke, lookup_untagged, args_untagged]
  cases hlookup : g.lookup op with
  | error f => rfl
  | ok bound =>
    have hfree := isTagFree_of_lookup hlookup (h bound hlookup)
    rw [invoke_ok, invoke_ok, Binding.invoke_untagged hfree]

/-- **Tags are never looked at**, unless references or cells are asked for as they are. In every
registry and arena two cells that differ in their tags only are read alike, to the same value or
with the same failure, for every type that mentions neither references nor cells. A binding of a
member with parameters of such types only, made for whatever kinds, can be invoked with either of
two lists of arguments that differ in their tags only, the receiver included. And two calls that
differ in their tags only are bound to the same; where this is a member of that sort, or a field,
they come to the same result, and leave the same arena and world behind. -/
theorem perform_eq_of_untagged :
    (∀ (r : Registry) (a : Arena) (t : DeclType), t.IsTagFree → ∀ c c' : Cell,
        c.untagged = c'.untagged → r.read a t c = r.read a t c') ∧
      (∀ (binder : Binder) (cls : ClassDef σ) (m : Member σ) (kinds : List CellKind)
        (bound : Binding σ), binder.bind? cls m kinds = some bound →
          (∀ t ∈ m.params, t.IsTagFree) → ∀ (args args' : List Cell) (h : Host σ),
            args.map Cell.untagged = args'.map Cell.untagged →
              bound.invoke args h = bound.invoke args' h) ∧
      ∀ (g : Gateway σ) (op op' : Operation), op.untagged = op'.untagged →
        g.lookup op = g.lookup op' ∧
          ((∀ bound, g.lookup op = .ok bound → TakesNoTags bound) →
            g.perform op = g.perform op') := by
  refine ⟨fun r a t ht c c' hc => ?_, fun binder cls m kinds bound hb hm args args' h hargs => ?_,
    fun g op op' hop => ?_⟩
  · calc r.read a t c
        = r.read a t c.untagged := (r.read_untagged a t ht c).symm
      _ = r.read a t c' := by rw [hc, r.read_untagged a t ht c']
  · have hfree := Binder.isTagFree_of_bind? hb hm
    calc bound.invoke args h
        = bound.invoke (args.map Cell.untagged) h := (Binding.invoke_untagged hfree args h).symm
      _ = bound.invoke args' h := by rw [hargs, Binding.invoke_untagged hfree]
  · have hlookup : g.lookup op = g.lookup op' := by
      rw [← lookup_untagged g op, hop, lookup_untagged g op']
    refine ⟨hlookup, fun h => ?_⟩
    have h' : ∀ bound, g.lookup op' = .ok bound → TakesNoTags bound := by
      rw [← hlookup]
      exact h
    calc g.perform op
        = g.perform op.untagged := (perform_untagged h).symm
      _ = g.perform op' := by rw [hop, perform_untagged h']

/-- A book that is rated with a list of any objects. Whatever the tags of the book and of the curve
in the list are, the call is the same. -/
theorem perform_eq_of_untagged_forged :
    let curve : Object := { identity := .made 7, classId := { name := "Curve" }, content := none }
    let copy : Object := { identity := .made 8, classId := { name := "Book" }, content := none }
    let listed : DeclType := .generic .list [.object]
    let rate : Member Unit :=
      { name := "rate", params := [listed], result := .plain (.primitive .boolean)
        body := fun _ _ => pure (.value (.boolean true)) }
    let book : ClassDef Unit :=
      { classId := copy.classId, constructors := [], methods := [rate], fields := [] }
    let arena : Arena := ((({} : Arena).put curve).2.put copy).2
    let g : Gateway Unit :=
      { withSettings {} () with
        catalog := { classes := ⟨[("Book", book)]⟩ }, host := { arena := arena, world := () } }
    let grid : String → Cell := fun tag => .grid [[.reference 1 tag, .boolean true]]
    let args : String → List Cell := fun tag => [.reference 2 tag, grid tag]
    (Registry.stock .column).read arena listed (grid "Curve") =
        (Registry.stock .column).read arena listed (grid "Forged") ∧
      (∃ bound, g.binder.bind? book rate [.missing, .grid] = some bound ∧
        bound.invoke (args "Book") g.host = bound.invoke (args "Forged") g.host) ∧
      g.perform (.call "Book" "rate" (args "Book")) =
        g.perform (.call "Book" "rate" (args "Forged")) ∧
      (g.perform (.call "Book" "rate" (args "Forged"))).1 = .ok (.boolean true) := by
  intro curve copy listed rate book arena g grid args
  have hlisted : listed.IsTagFree := ⟨rfl, rfl⟩
  have hrate : ∀ t ∈ rate.params, t.IsTagFree := by
    intro t ht
    rw [List.mem_singleton.1 ht]
    exact hlisted
  obtain ⟨hread, hinvoke, hperform⟩ := @perform_eq_of_untagged Unit
  refine ⟨hread _ _ _ hlisted _ _ rfl,
    ⟨_, rfl, hinvoke g.binder book rate [.missing, .grid] _ rfl hrate _ _ _ rfl⟩,
    ?_, rfl⟩
  apply (hperform g (.call "Book" "rate" (args "Book")) (.call "Book" "rate" (args "Forged")) rfl).2
  intro bound hbound m hm
  cases hbound
  cases hm
  exact hrate

end Gateway

end CellMarshal
