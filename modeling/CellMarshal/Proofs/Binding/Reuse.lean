import CellMarshal.Binding.Invoke
import CellMarshal.Proofs.Binding.Fitting
import CellMarshal.Proofs.Registry.Coherence

/-!
# Bindings that are used again

A binding carries the converters that were found for the kinds of arguments it was made for, and an
argument of another kind is read by the same converter wherever that one reads it. Nothing is lost
by this. A converter that was found and reads another kind as well hands cells on as they are, and
then it is the first one for every kind; or it reads no other kind. So the converter that a slot
carries is either the one that would be looked up afresh, or passed over.

`Registry.readArgument` reads one argument afresh. A binding comes to the same for each of its fixed
parameters, position by position, and so do `Binding.bare`, the binding without the converters of
its fixed parameters, and any other binding of the same member. Main statements: `reader?_of_reads`,
`bindOne_eq_readArgument`, `bindFixed_eq_mapM`, `invoke_bare` and `invoke_eq_of_kinds`.
-/

namespace CellMarshal

/-! ## Converters that read more than one kind -/

namespace Converter

variable {k : Converter}

/-- Any other converter reads no kind but its own, missing cells apart. -/
theorem kind_eq_of_reads_of_ne {kind : CellKind} (hf : k.form ≠ .cell) (hr : k.reads kind = true)
    (hkind : kind ≠ .missing) : k.kind = kind := by
  rcases reads_iff.1 hr with h | h | ⟨h, -⟩
  · exact absurd h hf
  · exact h
  · exact absurd h hkind

end Converter

namespace Registry

variable {r : Registry} {t : DeclType} {kind kind' : CellKind} {k : Converter}

/-- For a type of cells the kind of the cell makes no difference. -/
theorem reader?_eq_of_isCell (r : Registry) (ht : t.isCell = true) (kind kind' : CellKind) :
    r.reader? t kind = r.reader? t kind' := by
  have htest : ∀ kind : CellKind,
      (fun c : Converter => c.reads kind && c.produces t) = fun c => c.produces t := by
    intro kind
    funext c
    cases hp : c.produces t with
    | false => simp
    | true => simp [Converter.reads, Converter.form_eq_cell_of_produces ht hp]
  rw [reader?_eq_find?, reader?_eq_find?, htest, htest]

/-- **A converter that reads another kind is found for it too.** Missing cells are left out, unless
the type is one of cells: a converter for references reads them, and is not looked up for them. -/
theorem reader?_of_reads (h : r.reader? t kind = some k)
    (hkind : kind = .missing → t.isCell = true) (hr : k.reads kind' = true)
    (hkind' : kind' = .missing → t.isCell = true) : r.reader? t kind' = some k := by
  obtain ⟨-, hreads, hp⟩ := of_reader?_eq_some h
  by_cases ht : t.isCell = true
  · rw [reader?_eq_of_isCell r ht kind' kind, h]
  · have hf : k.form ≠ .cell := by
      intro hf
      rw [Converter.produces_of_cell hf] at hp
      exact ht hp
    have hown : k.kind = kind :=
      Converter.kind_eq_of_reads_of_ne hf hreads fun hm => ht (hkind hm)
    have hown' : k.kind = kind' :=
      Converter.kind_eq_of_reads_of_ne hf hr fun hm => ht (hkind' hm)
    rw [← hown', hown, h]

/-- What the argument at a position comes to when it is read afresh: the registry reads it for the
declared type. A missing one, unless cells are declared, is no value, which a primitive type cannot
hold; `name` is what the failure calls the member. -/
def readArgument (r : Registry) (a : Arena) (name : String) (position : Nat) (declared : DeclType)
    (c : Cell) : Except Failure Value :=
  if c.isMissing && !declared.isCell then
    if declared.isPrimitive then
      .error (.nullArgument ("argument " ++ toString position ++ " of " ++ name ++
        " is missing but declared " ++ declared.display))
    else .ok .null
  else r.read a declared c

end Registry

/-! ## Slots -/

namespace ParamSlot

/-- The slot without the converter that was picked for it. -/
def bare (slot : ParamSlot) : ParamSlot :=
  { slot with converter := none }

/-- The converter of the slot, if any, was looked up in a registry, under the type of the slot and
for some kind of cell. -/
def IsFound (r : Registry) (slot : ParamSlot) : Prop :=
  ∀ k ∈ slot.converter, ∃ kind, (kind = .missing → slot.declared.isCell = true) ∧
    r.reader? slot.declared kind = some k

/-- A converter that was looked up and reads a cell is looked up again for it. -/
theorem IsFound.read_eq {r : Registry} {slot : ParamSlot} (hs : slot.IsFound r) {k : Converter}
    (hk : slot.converter = some k) {c : Cell} (hr : k.reads c.kind = true)
    (hc : c = .missing → slot.declared.isCell = true) (a : Arena) :
    r.readWith a k slot.declared c = r.read a slot.declared c := by
  obtain ⟨kind, hkind, hfound⟩ := hs k hk
  have hagain : r.reader? slot.declared c.kind = some k :=
    Registry.reader?_of_reads hfound hkind hr fun hm => hc (Cell.kind_eq_missing_iff.1 hm)
  exact (Registry.read_of_reader? hagain).symm

end ParamSlot

/-- A slot gets the converter that is found for its type and the kind of its argument, or none. -/
theorem Binder.isFound_of_slot? {binder : Binder} {declared : DeclType} {kind : CellKind}
    {slot : ParamSlot} (h : binder.slot? declared kind = some slot) :
    slot.IsFound binder.registry := by
  intro k hk
  unfold slot? at h
  split at h
  · cases h
    cases hk
  · rename_i hkind
    obtain ⟨k', hk', rfl⟩ := Option.map_eq_some_iff.1 h
    cases hk
    refine ⟨kind, fun hm => ?_, hk'⟩
    by_contra hcell
    exact hkind ⟨hm, Bool.eq_false_iff.2 hcell⟩

/-! ## Bindings -/

namespace Binding

variable {σ : Type} {b : Binding σ} {a : Arena}

/-- The binding without the converters that were picked for its fixed parameters, and without the
score that they came to. -/
def bare (b : Binding σ) : Binding σ :=
  { b with params := b.params.map ParamSlot.bare, score := 0 }

/-- **An argument is read as it would be afresh**: the registry reads it, unless it is missing. -/
theorem bindOne_eq_read {slot : ParamSlot} (hs : slot.IsFound b.registry) (position : Nat)
    {c : Cell} (hc : c = .missing → slot.declared.isCell = true) :
    b.bindOne a position slot c = b.registry.read a slot.declared c := by
  have hread : (c.isMissing && !slot.declared.isCell) = false := by
    rw [Bool.eq_false_iff]
    intro h
    simp only [Bool.and_eq_true, Cell.isMissing_iff, Bool.not_eq_true'] at h
    rw [hc h.1] at h
    exact absurd h.2 (by simp)
  rcases hk : slot.converter.filter fun k => k.reads c.kind with _ | k
  · exact bindOne_of_unread b a position hread hk
  · obtain ⟨hsome, hreads⟩ := Option.filter_eq_some_iff.1 hk
    rw [bindOne_of_converter b a position hread hsome hreads]
    exact hs.read_eq hsome hreads hc a

/-- The converter of a slot makes no difference, whatever the argument is. -/
theorem bindOne_eq_readArgument {slot : ParamSlot} (hs : slot.IsFound b.registry) (position : Nat)
    (c : Cell) : b.bindOne a position slot c =
      b.registry.readArgument a b.memberName position slot.declared c := by
  by_cases hc : (c.isMissing && !slot.declared.isCell) = true
  · obtain ⟨hmissing, hcell⟩ := (Bool.and_eq_true _ _).mp hc
    obtain rfl := Cell.isMissing_iff.1 hmissing
    rw [bindOne_of_missing b a position (by simpa using hcell), Registry.readArgument, if_pos hc]
  · rw [Registry.readArgument, if_neg hc]
    refine bindOne_eq_read hs position fun hmissing => ?_
    simpa [hmissing, Cell.isMissing] using hc

/-- **The fixed parameters are bound position by position**, each as its argument is read afresh;
the first argument that fails ends it. -/
theorem bindFixed_eq_mapM {slots : List ParamSlot} (hs : ∀ slot ∈ slots, slot.IsFound b.registry)
    (position : Nat) (args : List Cell) :
    b.bindFixed a position slots args =
      (((slots.map ParamSlot.declared).zip args).zipIdx position).mapM fun e =>
        b.registry.readArgument a b.memberName e.2 e.1.1 e.1.2 := by
  induction slots generalizing position args with
  | nil => rfl
  | cons slot slots ih =>
    rcases args with _ | ⟨c, cs⟩
    · rfl
    · rw [List.map_cons, List.zip_cons_cons, List.zipIdx_cons, List.mapM_cons, bindFixed,
        bindOne_eq_readArgument (hs slot List.mem_cons_self),
        ih fun s h => hs s (List.mem_cons_of_mem _ h)]

/-- Bound without its converters, a member gets the same for its fixed parameters. -/
theorem bindFixed_bare (hs : ∀ slot ∈ b.params, slot.IsFound b.registry) (args : List Cell) :
    b.bare.bindFixed a 0 b.bare.params args = b.bindFixed a 0 b.params args := by
  have hbare : ∀ slot ∈ b.bare.params, slot.IsFound b.bare.registry := by
    intro slot hslot k hk
    obtain ⟨slot, -, rfl⟩ := List.mem_map.1 hslot
    cases hk
  have hdeclared : b.bare.params.map ParamSlot.declared = b.params.map ParamSlot.declared :=
    List.map_map
  rw [bindFixed_eq_mapM hbare, bindFixed_eq_mapM hs, hdeclared]
  rfl

/-- All arguments bind in the same way without the converters of the fixed parameters. -/
theorem bindArgs_bare (hs : ∀ slot ∈ b.params, slot.IsFound b.registry) (args : List Cell) :
    b.bare.bindArgs a args = b.bindArgs a args := by
  have hlength : b.bare.params.length = b.params.length := List.length_map _
  have hfits : b.bare.fitsArity args.length = b.fitsArity args.length := by
    rw [fitsArity, fitsArity, hlength]
    rfl
  have hfault : b.bare.arityFailure args.length = b.arityFailure args.length := by
    rw [arityFailure, arityFailure, hlength]
    rfl
  rw [bindArgs, bindArgs, hfits, hfault, hlength, bindFixed_bare hs]
  rfl

/-- What a call passes on begins with what the fixed parameters were bound to. -/
theorem exists_of_bindCall {args : List Cell} {receiver : Option Object} {values : List Value}
    (h : b.bindCall a args = .ok (receiver, values)) :
    ∃ given fixed further, b.bindReceiver a args = .ok (receiver, given) ∧
      b.params.length ≤ given.length ∧ b.bindFixed a 0 b.params given = .ok fixed ∧
        values = fixed ++ further := by
  obtain ⟨⟨_, given⟩, hreceiver, h⟩ := bind_eq_ok_iff.1 h
  obtain ⟨_, hvalues, h⟩ := bind_eq_ok_iff.1 h
  cases h
  unfold bindArgs at hvalues
  split at hvalues
  · rename_i hfits
    obtain ⟨fixed, hfixed, hvalues⟩ := bind_eq_ok_iff.1 hvalues
    refine ⟨given, fixed, ?_⟩
    cases hva : b.varargs with
    | none =>
      rw [hva] at hvalues
      cases hvalues
      exact ⟨[], hreceiver, length_le_of_fitsArity hfits, hfixed, (List.append_nil _).symm⟩
    | some va =>
      rw [hva] at hvalues
      obtain ⟨rest, -, hvalues⟩ := bind_eq_ok_iff.1 hvalues
      cases hvalues
      exact ⟨[rest], hreceiver, length_le_of_fitsArity hfits, hfixed, rfl⟩
  · cases hvalues

/-- The value that a call passes on at the position of a fixed parameter is its argument, read
afresh. -/
theorem readArgument_of_bindCall (hs : ∀ slot ∈ b.params, slot.IsFound b.registry)
    {args : List Cell} {receiver : Option Object} {values : List Value}
    (h : b.bindCall a args = .ok (receiver, values)) :
    ∃ given, b.bindReceiver a args = .ok (receiver, given) ∧
      ∀ (i : Nat) (declared : DeclType), (b.params.map ParamSlot.declared)[i]? = some declared →
        ∃ c v, given[i]? = some c ∧ values[i]? = some v ∧
          b.registry.readArgument a b.memberName i declared c = .ok v := by
  obtain ⟨given, fixed, further, hreceiver, hlength, hfixed, rfl⟩ := exists_of_bindCall h
  refine ⟨given, hreceiver, fun i declared hdeclared => ?_⟩
  rw [bindFixed_eq_mapM hs, mapM_eq_ok_iff, List.forall₂_iff_get] at hfixed
  obtain ⟨hlen, hread⟩ := hfixed
  simp only [List.length_zipIdx, List.length_zip, List.length_map] at hlen
  obtain ⟨hi, hget⟩ := List.getElem?_eq_some_iff.1 hdeclared
  rw [List.length_map] at hi
  have hgiven : i < given.length := by omega
  have hvalue : i < fixed.length := by omega
  have hthis := hread i (by simp; omega) hvalue
  refine ⟨given[i], fixed[i], List.getElem?_eq_getElem hgiven, ?_, ?_⟩
  · rw [List.getElem?_append_left hvalue, List.getElem?_eq_getElem hvalue]
  · simpa [hget] using hthis

/-- **A binding comes to the same as without its converters**, whatever the arguments are. -/
theorem invoke_bare (hs : ∀ slot ∈ b.params, slot.IsFound b.registry) (args : List Cell)
    (h : Host σ) : b.bare.invoke args h = b.invoke args h := by
  have hcall : b.bare.bindCall h.arena args = b.bindCall h.arena args := by
    unfold bindCall
    simp only [bindArgs_bare hs]
    rfl
  rw [invoke, invoke, hcall]
  rfl

/-! ## Two bindings of one member -/

variable {binder : Binder} {cls : ClassDef σ} {m : Member σ} {kinds kinds' : List CellKind}
  {bound bound' : Binding σ}

/-- All slots of a binding have converters that were looked up in its registry. -/
theorem isFound_of_bind? (hb : binder.bind? cls m kinds = some bound) :
    ∀ slot ∈ bound.params, slot.IsFound bound.registry := by
  obtain ⟨rest, slots, va, scores, -, -, hslots, -, rfl⟩ := Binder.bind?_eq_some_iff.1 hb
  intro slot hslot
  obtain ⟨p, -, hp⟩ := exists_of_mem_left hslots.flip hslot
  exact Binder.isFound_of_slot? hp

/-- The slots of a binding are declared as the fixed parameters of its member. -/
theorem map_declared_of_isFor (hb : bound.IsFor cls m) :
    bound.params.map ParamSlot.declared = m.fixedParams := by
  have hsame := hb.params.imp fun t slot hslot => hslot.1.symm
  rw [← List.forall₂_eq_eq_eq, List.forall₂_map_left_iff]
  exact (hsame.flip).imp fun slot t h => h.symm

/-- The further arguments together are read by a converter for grids, whatever their kinds are. -/
theorem varargs_eq_of_bind? (hb : binder.bind? cls m kinds = some bound)
    (hb' : binder.bind? cls m kinds' = some bound') : bound.varargs = bound'.varargs := by
  obtain ⟨rest, slots, va, scores, -, -, -, htail, rfl⟩ := Binder.bind?_eq_some_iff.1 hb
  obtain ⟨rest', slots', va', scores', -, -, -, htail', rfl⟩ := Binder.bind?_eq_some_iff.1 hb'
  show va = va'
  rcases Binder.tail?_cases htail with ⟨hm, rfl⟩ | ⟨⟨arrayType, k⟩, hm, rfl, hk⟩
  · rcases Binder.tail?_cases htail' with ⟨-, rfl⟩ | ⟨v', hm', -⟩
    · rfl
    · rw [hm] at hm'
      cases hm'
  · rcases Binder.tail?_cases htail' with ⟨hm', -⟩ | ⟨⟨arrayType', k'⟩, hm', rfl, hk'⟩
    · rw [hm] at hm'
      cases hm'
    · obtain rfl : arrayType = arrayType' := Option.some.inj (hm.symm.trans hm')
      obtain rfl : k = k' := Option.some.inj (hk.symm.trans hk')
      rfl

/-- Bindings of one member differ in their converters and scores alone. -/
theorem bare_eq_of_bind? (hb : binder.bind? cls m kinds = some bound)
    (hb' : binder.bind? cls m kinds' = some bound') : bound.bare = bound'.bare := by
  have hvarargs := varargs_eq_of_bind? hb hb'
  have hdeclared : bound.params.map ParamSlot.declared = bound'.params.map ParamSlot.declared := by
    rw [map_declared_of_isFor (Binder.isFor_of_bind? hb),
      map_declared_of_isFor (Binder.isFor_of_bind? hb')]
  have hslots : bound.params.map ParamSlot.bare = bound'.params.map ParamSlot.bare := by
    have hbare : ParamSlot.bare = fun slot => ⟨slot.declared, none⟩ := rfl
    have hcomp := congrArg (List.map fun t => (⟨t, none⟩ : ParamSlot)) hdeclared
    simpa [List.map_map, hbare, Function.comp_def] using hcomp
  obtain ⟨rest, slots, va, scores, -, -, -, -, rfl⟩ := Binder.bind?_eq_some_iff.1 hb
  obtain ⟨rest', slots', va', scores', -, -, -, -, rfl⟩ := Binder.bind?_eq_some_iff.1 hb'
  unfold bare
  simp only at hvarargs hslots
  rw [hvarargs, hslots]

/-- **A binding can be used again for arguments of any kinds.** In every registry, let a member be
bound for two lists of kinds. Both bindings come to the same result, arena and world for all
arguments, and so neither comes to anything else than one that is made for the arguments at hand.
Each has one slot for each fixed parameter, and reads the argument for it as the registry does for
the declared type; a missing one, unless cells are declared, is no value, and fails for a primitive
type. All fixed parameters are bound in this way, position by position, and what the body receives
at the position of one is what its argument reads as. -/
theorem invoke_eq_of_kinds (binder : Binder) (cls : ClassDef σ) (m : Member σ)
    (kinds kinds' : List CellKind) (bound bound' : Binding σ)
    (hb : binder.bind? cls m kinds = some bound) (hb' : binder.bind? cls m kinds' = some bound') :
    (∀ args h, bound.invoke args h = bound'.invoke args h) ∧
      bound.params.map ParamSlot.declared = m.fixedParams ∧
      (∀ slot ∈ bound.params, ∀ (a : Arena) (position : Nat),
        (∀ c : Cell, (c = .missing → slot.declared.isCell = true) →
          bound.bindOne a position slot c = binder.registry.read a slot.declared c) ∧
        (slot.declared.isCell = false → bound.bindOne a position slot .missing =
          if slot.declared.isPrimitive then
            .error (.nullArgument ("argument " ++ toString position ++ " of " ++ bound.memberName ++
              " is missing but declared " ++ slot.declared.display))
          else .ok .null)) ∧
      (∀ (a : Arena) (args : List Cell), bound.bindFixed a 0 bound.params args =
        (m.fixedParams.zip args).zipIdx.mapM fun e =>
          binder.registry.readArgument a bound.memberName e.2 e.1.1 e.1.2) ∧
      ∀ (a : Arena) (args : List Cell) (receiver : Option Object) (values : List Value),
        bound.bindCall a args = .ok (receiver, values) →
          ∃ given, bound.bindReceiver a args = .ok (receiver, given) ∧
            ∀ (i : Nat) (declared : DeclType), m.fixedParams[i]? = some declared →
              ∃ c v, given[i]? = some c ∧ values[i]? = some v ∧
                binder.registry.readArgument a bound.memberName i declared c = .ok v := by
  have hregistry : bound.registry = binder.registry := (Binder.target_of_bind? hb).2
  have hdeclared := map_declared_of_isFor (Binder.isFor_of_bind? hb)
  have hfound := isFound_of_bind? hb
  refine ⟨fun args h => ?_, hdeclared, fun slot hslot a position => ⟨fun c hc => ?_,
    fun hcell => ?_⟩, fun a args => ?_, fun a args receiver values h => ?_⟩
  · calc bound.invoke args h
        = bound.bare.invoke args h := (invoke_bare hfound args h).symm
      _ = bound'.bare.invoke args h := by rw [bare_eq_of_bind? hb hb']
      _ = bound'.invoke args h := invoke_bare (isFound_of_bind? hb') args h
  · rw [bindOne_eq_read (hfound slot hslot) position hc, hregistry]
  · exact bindOne_of_missing bound a position hcell
  · rw [bindFixed_eq_mapM hfound, hdeclared, hregistry]
  · rw [← hdeclared, ← hregistry]
    exact readArgument_of_bindCall hfound h

/-- A method for a truth value and for a cell, bound for a number and a text and bound for nothing
at all. The two bindings have other converters, and read a truth value and a missing cell alike. -/
theorem invoke_eq_of_kinds_switch :
    let switch : Member Unit :=
      { name := "switch"
        params := [.plain (.primitive .boolean), .plain .cell]
        result := .plain (.primitive .boolean)
        isStatic := true
        body := fun _ values => pure (.value (values.headD .null)) }
    let cls : ClassDef Unit :=
      { classId := { name := "Panel" }, constructors := [], methods := [switch], fields := [] }
    let binder : Binder := { registry := .stock .column }
    let host : Host Unit := { arena := {}, world := () }
    ∃ bound bound', binder.bind? cls switch [.number, .text] = some bound ∧
      binder.bind? cls switch [.missing, .missing] = some bound' ∧
      bound.params ≠ bound'.params ∧
      bound.invoke [.boolean true, .missing] host = bound'.invoke [.boolean true, .missing] host ∧
      (bound.invoke [.boolean true, .missing] host).1 = .ok (.boolean true) := by
  intro switch cls binder host
  refine ⟨_, _, rfl, rfl, by decide, ?_, rfl⟩
  exact (invoke_eq_of_kinds binder cls switch [.number, .text] [.missing, .missing] _ _ rfl rfl).1
    _ _

end Binding

end CellMarshal
