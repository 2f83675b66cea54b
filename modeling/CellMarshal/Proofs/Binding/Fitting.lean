import CellMarshal.Binding.Invoke
import CellMarshal.Proofs.Binding.Slots
import CellMarshal.Proofs.Reading.Typed

/-!
# Bodies run on what they declare

A binding is made for arguments of some kinds and may be invoked with others. Its converters are
then looked up again, a missing argument becomes no value, and the further arguments of a variadic
member are read as one row or one by one. Whichever way a value comes, a body sees it only if every
value fits, which is what `Member.FitsCall` says of a call.

That a body is not run is stated by putting other bodies in its place (`Binding.withBody`): an
invocation that comes to the same with every body runs none, and one that runs the body at some
values depends on the body at these values alone. Main statements: `forall₂_of_bindFixed`,
`exists_array_of_bindTail`, `fitsCall_of_bindCall` and `invoke_runs_fitting`.
-/

namespace CellMarshal

variable {σ : Type}

/-! ## Calls that fit -/

/-- A value fits a declared type: it is an instance of it, and a value at all where the type is
primitive. -/
def Value.Fits (type : DeclType) (v : Value) : Prop :=
  v.isInstanceOf type = true ∧ (type.isPrimitive = true → v ≠ .null)

/-- An instance of a type fits it. -/
theorem Value.fits_of_isInstanceOf {type : DeclType} {v : Value}
    (h : v.isInstanceOf type = true) : v.Fits type :=
  ⟨h, fun hp => ne_null_of_isInstanceOf h hp⟩

/-- No value fits a type that is not primitive. -/
theorem Value.fits_null {type : DeclType} (h : type.isPrimitive = false) :
    Value.null.Fits type := by
  apply fits_of_isInstanceOf
  rw [isInstanceOf_null, h]
  rfl

/-- An array fits an array type where its elements fit the component. -/
theorem Value.fits_array_iff {component : DeclType} {items : List Value} :
    (Value.array items).Fits (.array component) ↔ ∀ v ∈ items, v.Fits component := by
  constructor
  · rintro ⟨h, -⟩ v hv
    rw [isInstanceOf_array, allInstancesOf_iff] at h
    exact fits_of_isInstanceOf (h v hv)
  · intro h
    apply fits_of_isInstanceOf
    rw [isInstanceOf_array, allInstancesOf_iff]
    intro v hv
    exact (h v hv).1

/-- What the registry reads for a type fits it. -/
theorem Registry.fits_of_read {r : Registry} {a : Arena} {type : DeclType} {c : Cell} {v : Value}
    (h : r.read a type c = .ok v) : v.Fits type :=
  Value.fits_of_isInstanceOf (isTyped_read r a type c v h)

/-- What a converter that produces values for a type reads for it fits the type. -/
theorem Registry.fits_of_readWith {r : Registry} {a : Arena} {k : Converter} {type : DeclType}
    {c : Cell} {v : Value} (hk : k.produces type = true) (h : r.readWith a k type c = .ok v) :
    v.Fits type :=
  Value.fits_of_isInstanceOf (isInstanceOf_of_readWith hk h)

/-- What a member is promised of a call: a value for each parameter, which fits it, and a receiver
of its class where it takes one and none otherwise. -/
structure Member.FitsCall (m : Member σ) (cls : ClassDef σ) (receiver : Option Object)
    (values : List Value) : Prop where
  length_eq : values.length = m.params.length
  values_fit : List.Forall₂ Value.Fits m.params values
  /-- The last value of a variadic member is an array, element by element of its component. -/
  vararg : m.isVariadic = true → ∃ component items,
    m.params.getLast? = some (.array component) ∧ values.getLast? = some (.array items) ∧
      ∀ v ∈ items, v.Fits component
  receiver_isSome : receiver.isSome = !m.isStatic
  receiver_fits : ∀ o ∈ receiver, o.classId.isInstanceOf cls.name = true

namespace Binding

variable {b : Binding σ} {cls : ClassDef σ} {m : Member σ} {a : Arena}

/-! ## Arguments -/

/-- A missing argument becomes no value only where the parameter can do without; any other is read
by a converter for the parameter, be it the one picked for it or another one. -/
theorem fits_of_bindOne {type : DeclType} {slot : ParamSlot} {position : Nat} {c : Cell} {v : Value}
    (hs : slot.IsFor type) (h : b.bindOne a position slot c = .ok v) : v.Fits type := by
  obtain ⟨rfl, hk⟩ := hs
  cases hc : c.isMissing && !slot.declared.isCell with
  | true =>
    unfold bindOne at h
    rw [if_pos hc] at h
    split at h
    · cases h
    · rename_i hp
      cases h
      exact Value.fits_null (by simpa using hp)
  | false =>
    cases hf : slot.converter.filter fun k => k.reads c.kind with
    | none =>
      rw [bindOne_of_unread b a position hc hf] at h
      exact Registry.fits_of_read h
    | some k =>
      obtain ⟨hsome, hreads⟩ := Option.filter_eq_some_iff.1 hf
      rw [bindOne_of_converter b a position hc hsome hreads] at h
      exact Registry.fits_of_readWith (hk k hsome) h

/-- Fixed parameters get one value each. -/
theorem forall₂_of_bindFixed {types : List DeclType} {slots : List ParamSlot}
    (hs : List.Forall₂ ParamSlot.IsFor types slots) {position : Nat} {args : List Cell}
    {values : List Value} (hl : slots.length ≤ args.length)
    (h : b.bindFixed a position slots args = .ok values) :
    List.Forall₂ Value.Fits types values := by
  induction hs generalizing position args values with
  | nil =>
    cases h
    exact .nil
  | cons hslot _ ih =>
    cases args with
    | nil => cases hl
    | cons c cs =>
      obtain ⟨v, hv, h⟩ := bind_eq_ok_iff.1 h
      obtain ⟨vs, hvs, h⟩ := bind_eq_ok_iff.1 h
      cases h
      exact .cons (fits_of_bindOne hslot hv) (ih (Nat.le_of_succ_le_succ hl) hvs)

/-- One further argument fits the component. -/
theorem fits_of_bindTrailing {component : DeclType} {c : Cell} {v : Value}
    (hp : component.isPrimitive = false) (h : b.bindTrailing a component c = .ok v) :
    v.Fits component := by
  unfold bindTrailing at h
  split at h
  · cases h
    exact Value.fits_null hp
  · exact Registry.fits_of_read h

/-- The further arguments come as an array, whether they are read one by one or as one row. -/
theorem exists_array_of_bindTail {component : DeclType} {va : VarargSlot} {tail : List Cell}
    {v : Value} (hva : va.IsFor (.array component)) (h : b.bindTail a va tail = .ok v) :
    ∃ items, v = .array items ∧ ∀ w ∈ items, w.Fits component := by
  obtain ⟨harr, hk⟩ := hva
  have he : va.arrayType.element? = some component := by rw [harr, DeclType.element?_array]
  cases hc : component.isContainer with
  | true =>
    rw [bindTail_of_container b a he hc] at h
    obtain ⟨items, hitems, rfl⟩ := map_eq_ok_iff.1 h
    refine ⟨items, rfl, fun w hw => ?_⟩
    obtain ⟨c, -, hread⟩ := exists_of_mem_mapM hitems hw
    exact fits_of_bindTrailing (DeclType.isPrimitive_of_isContainer hc) hread
  | false =>
    rw [bindTail_of_row b a he hc, harr] at h
    obtain ⟨items, rfl⟩ := Registry.exists_array_of_readWith hk h
    exact ⟨items, rfl, Value.fits_array_iff.1 (Registry.fits_of_readWith hk h)⟩

/-- A number of arguments that fits is enough for the fixed parameters. -/
theorem length_le_of_fitsArity {n : Nat} (h : b.fitsArity n = true) : b.params.length ≤ n := by
  unfold fitsArity at h
  split at h
  · exact of_decide_eq_true h
  · exact Nat.le_of_eq (of_decide_eq_true h).symm

/-- A member without variadic array gets the values of its fixed parameters and no other. -/
theorem forall₂_of_bindArgs (hb : b.IsFor cls m) (hn : m.vararg? = none) {args : List Cell}
    {values : List Value} (h : b.bindArgs a args = .ok values) :
    List.Forall₂ Value.Fits m.fixedParams values := by
  have hva := hb.varargs_eq_none hn
  unfold bindArgs at h
  split at h
  · rename_i hfit
    obtain ⟨fixed, hfixed, h⟩ := bind_eq_ok_iff.1 h
    rw [hva] at h
    cases h
    exact forall₂_of_bindFixed hb.params (length_le_of_fitsArity hfit) hfixed
  · cases h

/-- A variadic member gets an array after the values of its fixed parameters. -/
theorem exists_append_of_bindArgs (hb : b.IsFor cls m) {component : DeclType}
    (hc : m.vararg? = some (.array component)) {args : List Cell} {values : List Value}
    (h : b.bindArgs a args = .ok values) :
    ∃ fixed items, values = fixed ++ [.array items] ∧
      List.Forall₂ Value.Fits m.fixedParams fixed ∧ ∀ v ∈ items, v.Fits component := by
  obtain ⟨va, hva, hfor⟩ := hb.exists_varargs_eq_some hc
  unfold bindArgs at h
  split at h
  · rename_i hfit
    obtain ⟨fixed, hfixed, h⟩ := bind_eq_ok_iff.1 h
    rw [hva] at h
    obtain ⟨rest, hrest, h⟩ := bind_eq_ok_iff.1 h
    cases h
    obtain ⟨items, rfl, hitems⟩ := exists_array_of_bindTail hfor hrest
    exact ⟨fixed, items, rfl,
      forall₂_of_bindFixed hb.params (length_le_of_fitsArity hfit) hfixed, hitems⟩
  · cases h

/-- Every parameter gets a value that fits it, and the last one of a variadic member an array. -/
theorem fits_of_bindArgs (hb : b.IsFor cls m)
    (hm : m.isVariadic = true → ∃ component, m.vararg? = some (.array component))
    {args : List Cell} {values : List Value} (h : b.bindArgs a args = .ok values) :
    List.Forall₂ Value.Fits m.params values ∧
      (m.isVariadic = true → ∃ component items,
        m.params.getLast? = some (.array component) ∧ values.getLast? = some (.array items) ∧
          ∀ v ∈ items, v.Fits component) := by
  cases hv : m.isVariadic with
  | false =>
    have hvalues := forall₂_of_bindArgs hb (Member.vararg?_of_fixed hv) h
    rw [Member.fixedParams_of_fixed hv] at hvalues
    exact ⟨hvalues, fun hvariadic => absurd hvariadic Bool.false_ne_true⟩
  | true =>
    obtain ⟨component, hc⟩ := hm hv
    obtain ⟨fixed, items, rfl, hfixed, hitems⟩ := exists_append_of_bindArgs hb hc h
    rw [← Member.fixedParams_append_vararg hc]
    refine ⟨?_, fun _ => ⟨component, items, ?_, ?_, hitems⟩⟩
    · exact List.rel_append hfixed (.cons (Value.fits_array_iff.2 hitems) .nil)
    · exact List.getLast?_concat
    · exact List.getLast?_concat

/-! ## The receiver -/

/-- A receiver is bound exactly if the member takes one, and is of its class. -/
theorem isInstanceOf_of_bindReceiver {args rest : List Cell} {receiver : Option Object}
    (h : b.bindReceiver a args = .ok (receiver, rest)) :
    receiver.isSome = b.takesReceiver ∧
      ∀ o ∈ receiver, o.classId.isInstanceOf b.cls.name = true := by
  unfold bindReceiver at h
  split at h
  · rename_i ht
    split at h
    · cases h
    · obtain ⟨o, -, h⟩ := bind_eq_ok_iff.1 h
      split at h
      · rename_i ho
        cases h
        refine ⟨ht.symm, fun o' ho' => ?_⟩
        cases ho'
        exact ho
      · cases h
    · cases h
    · cases h
  · rename_i ht
    cases h
    refine ⟨by simpa using ht, fun o ho => ?_⟩
    cases ho

/-! ## All arguments -/

/-- **What binding the arguments gives fits the member**, receiver and values. -/
theorem fitsCall_of_bindCall (hb : b.IsFor cls m)
    (hm : m.isVariadic = true → ∃ component, m.vararg? = some (.array component))
    {args : List Cell} {receiver : Option Object} {values : List Value}
    (h : b.bindCall a args = .ok (receiver, values)) : m.FitsCall cls receiver values := by
  obtain ⟨⟨o, rest⟩, hreceiver, h⟩ := bind_eq_ok_iff.1 h
  obtain ⟨values', hargs, h⟩ := bind_eq_ok_iff.1 h
  cases h
  obtain ⟨hsome, hinstance⟩ := isInstanceOf_of_bindReceiver hreceiver
  obtain ⟨hvalues, hvararg⟩ := fits_of_bindArgs hb hm hargs
  rw [hb.takesReceiver_eq] at hsome
  rw [hb.cls_eq] at hinstance
  exact
    { length_eq := hvalues.length_eq.symm
      values_fit := hvalues
      vararg := hvararg
      receiver_isSome := hsome
      receiver_fits := hinstance }

/-! ## Other bodies -/

/-- The binding with another body in the place of the member's. -/
def withBody (b : Binding σ) (body : Body σ) : Binding σ :=
  { b with
    target :=
      match b.target with
      | .member m => .member { m with body := body }
      | .field f => .field f }

/-- What an invocation comes to when the body has run, from its outcome and the world that it
left. -/
def conclude (b : Binding σ) (a : Arena) (ran : Outcome × σ) : Except Abort Cell × Host σ :=
  match b.settle ran.1 with
  | .error e => (.error e, { arena := a, world := ran.2 })
  | .ok v =>
    (((b.marshal v).runOn a).1.mapError .failure,
      { arena := ((b.marshal v).runOn a).2, world := ran.2 })

/-- An invocation whose arguments bind is concluded from what the body comes to. -/
theorem invoke_of_bindCall {b : Binding σ} {args : List Cell} {h : Host σ}
    {receiver : Option Object} {values : List Value}
    (hb : b.bindCall h.arena args = .ok (receiver, values)) :
    b.invoke args h = b.conclude h.arena ((b.runBody receiver values).run h.world) := by
  cases hs : b.settle ((b.runBody receiver values).run h.world).1 with
  | error e => rw [invoke_of_body_error hb hs, conclude, hs]
  | ok v => rw [invoke_of_value hb hs, conclude, hs]

section

variable (b : Binding σ) (body : Body σ)

/-- The name in messages does not depend on the body. -/
theorem memberName_withBody : (b.withBody body).memberName = b.memberName := by
  unfold memberName withBody
  cases b.target <;> rfl

/-- Binding the receiver does not depend on the body. -/
theorem bindReceiver_withBody (a : Arena) (args : List Cell) :
    (b.withBody body).bindReceiver a args = b.bindReceiver a args := by
  unfold bindReceiver
  rw [memberName_withBody]
  rfl

/-- Binding a fixed argument does not depend on the body. -/
theorem bindOne_withBody (a : Arena) (position : Nat) (slot : ParamSlot) (c : Cell) :
    (b.withBody body).bindOne a position slot c = b.bindOne a position slot c := by
  unfold bindOne
  rw [memberName_withBody]
  rfl

/-- Binding the fixed arguments does not depend on the body. -/
theorem bindFixed_withBody (a : Arena) (position : Nat) (slots : List ParamSlot)
    (args : List Cell) :
    (b.withBody body).bindFixed a position slots args = b.bindFixed a position slots args := by
  induction slots generalizing position args with
  | nil => rfl
  | cons slot slots ih =>
    cases args with
    | nil => rfl
    | cons c cs => rw [bindFixed, bindFixed, bindOne_withBody, ih]

/-- Binding all arguments does not depend on the body. -/
theorem bindArgs_withBody (a : Arena) (args : List Cell) :
    (b.withBody body).bindArgs a args = b.bindArgs a args := by
  unfold bindArgs arityFailure
  rw [memberName_withBody, bindFixed_withBody]
  rfl

/-- Binding the arguments does not depend on the body. -/
theorem bindCall_withBody (a : Arena) (args : List Cell) :
    (b.withBody body).bindCall a args = b.bindCall a args := by
  unfold bindCall
  simp only [bindReceiver_withBody, bindArgs_withBody]

/-- Nor does what follows on the body. -/
theorem conclude_withBody (a : Arena) (ran : Outcome × σ) :
    (b.withBody body).conclude a ran = b.conclude a ran := by
  have hsettle : (b.withBody body).settle ran.1 = b.settle ran.1 := by
    unfold settle
    rw [memberName_withBody]
    rfl
  unfold conclude
  rw [hsettle]
  rfl

/-- A binding with another body runs this one. -/
theorem runBody_withBody (hb : b.target = .member m) (receiver : Option Object)
    (values : List Value) : (b.withBody body).runBody receiver values = body receiver values := by
  unfold runBody withBody
  rw [hb]

end

/-! ## Invocations -/

/-- **A body runs on what it declares, or not at all.** Let a member of a class that was built be
bound, for whatever kinds of arguments, and the binding be invoked, with whatever arguments. Either
they come to a receiver and values that fit the member, and then the body is run on these once and
the invocation goes on from what it gives; or they come to a failure, and then the invocation fails
with it and leaves the host as it was, whatever the body is. -/
theorem invoke_runs_fitting (d : ClassDraft σ) (cls : ClassDef σ) (hd : d.build = .ok cls)
    (m : Member σ) (hm : m ∈ cls.constructors ++ cls.methods) (binder : Binder)
    (kinds : List CellKind) (bound : Binding σ) (hb : binder.bind? cls m kinds = some bound)
    (args : List Cell) (h : Host σ) :
    bound.withBody m.body = bound ∧
      ((∃ receiver values, bound.bindCall h.arena args = .ok (receiver, values) ∧
          m.FitsCall cls receiver values ∧
          ∀ body, (bound.withBody body).invoke args h =
            bound.conclude h.arena ((body receiver values).run h.world)) ∨
        ∃ f, bound.bindCall h.arena args = .error f ∧
          ∀ body, (bound.withBody body).invoke args h = (.error (.failure f), h)) := by
  have hfor := Binder.isFor_of_bind? hb
  obtain ⟨htarget, hself⟩ : bound.target = .member m ∧ bound.withBody m.body = bound := by
    obtain ⟨rest, slots, va, scores, -, -, -, -, rfl⟩ := Binder.bind?_eq_some_iff.1 hb
    exact ⟨rfl, rfl⟩
  refine ⟨hself, ?_⟩
  cases hcall : bound.bindCall h.arena args with
  | error f =>
    refine Or.inr ⟨f, rfl, fun body => ?_⟩
    exact invoke_of_bind_error (by rw [bindCall_withBody, hcall])
  | ok call =>
    obtain ⟨receiver, values⟩ := call
    have hfits : m.FitsCall cls receiver values :=
      fitsCall_of_bindCall hfor (Member.exists_vararg?_eq_array hd hm) hcall
    refine Or.inl ⟨receiver, values, rfl, hfits, fun body => ?_⟩
    have hcall' : (bound.withBody body).bindCall h.arena args = .ok (receiver, values) := by
      rw [bindCall_withBody, hcall]
    rw [invoke_of_bindCall hcall', conclude_withBody, runBody_withBody _ _ htarget]

/-- A variadic method, bound for one argument and invoked with two. -/
theorem invoke_runs_fitting_tally :
    let note : Member Nat :=
      { name := "note"
        params := [.plain (.primitive .boolean), .array (.plain (.primitive .boolean))]
        result := .plain (.primitive .boolean)
        isVariadic := true
        body := fun _ _ n => (.value (.boolean true), n + 1) }
    let draft : ClassDraft Nat := { name := "Tally", methods := [note] }
    let tally : Object := { identity := .made 7, classId := draft.classId, content := none }
    let host : Host Nat := { arena := (({} : Arena).put tally).2, world := 0 }
    let args : List Cell := [.reference 1 "Tally", .boolean true, .boolean false]
    ∃ cls bound, draft.build = .ok cls ∧
      ({ registry := .stock .column } : Binder).bind? cls note [.reference, .boolean] = some bound ∧
      (bound.invoke args host).1 = .ok (.boolean true) ∧
      ∃ values, note.FitsCall cls (some tally) values ∧
        values = [.boolean true, .array [.boolean false]] ∧
        ∀ body, (bound.withBody body).invoke args host =
          bound.conclude host.arena ((body (some tally) values).run host.world) := by
  intro note draft tally host args
  refine ⟨_, _, rfl, rfl, rfl, ?_⟩
  obtain ⟨-, ⟨receiver, values, hcall, hfits, hran⟩ | ⟨f, hcall, -⟩⟩ :=
    invoke_runs_fitting draft _ rfl note (List.mem_singleton.2 rfl)
      { registry := .stock .column } [.reference, .boolean] _ rfl args host
  · cases hcall
    exact ⟨_, hfits, rfl, hran⟩
  · cases hcall

end Binding

end CellMarshal
