import CellMarshal.Proofs.Binding.Fitting
import CellMarshal.Proofs.Reading.Failures
import CellMarshal.Proofs.Writing.Outcome
import Mathlib.Data.List.Induction

/-!
# Invoking what was selected

Members are selected by the kinds of the arguments alone, and the binding that comes of it is then
invoked with the arguments themselves. What selection found out holds good there: the number of
arguments fits, the receiver is a reference or missing, and every argument of a kind that needs a
converter has one. So an invocation with the arguments that it was selected for fails neither over
its arity nor for want of a member, and its arguments fail to bind only as the reading of some
argument fails by a converter that was found (`Failure.OfReading`).

Selection does not look into grids. A converter may be missing for a cell in a grid, and for a row
that is read as a grid of its own because the elements are containers. Main statements:
`Selects.exists_member`, `ofArguments_of_bindCall` and `failure_of_selected`.
-/

namespace CellMarshal

variable {σ : Type}

/-! ## What is selected -/

namespace Binder

variable {b : Binder} {cls : ClassDef σ} {kinds : List CellKind} {bound : Binding σ}

/-- The better of two choices is one of them. -/
theorem eq_or_eq_of_better {x y : Option (Rank × Binding σ)} {z : Rank × Binding σ}
    (h : better x y = some z) : x = some z ∨ y = some z := by
  unfold better at h
  split at h
  · exact Or.inr h
  · exact Or.inl h
  · split at h
    · exact Or.inr h
    · exact Or.inl h

/-- The best of some members is one of them. -/
theorem exists_member_of_best {members : List (Member σ)} {x : Rank × Binding σ}
    (h : b.best cls members kinds = some x) : ∃ m ∈ members, b.bind? cls m kinds = some x.2 := by
  induction members using List.reverseRecOn with
  | nil => cases h
  | append_singleton members m ih =>
    rw [best_append_single] at h
    rcases eq_or_eq_of_better h with h | h
    · obtain ⟨m', hm', hbind⟩ := ih h
      exact ⟨m', List.mem_append_left _ hm', hbind⟩
    · obtain ⟨bound, hbind, rfl⟩ := Option.map_eq_some_iff.1 h
      exact ⟨m, List.mem_append_right _ List.mem_cons_self, hbind⟩

/-- A member that is selected is one of those given, bound. -/
theorem exists_member_of_select {name : String} {members : List (Member σ)}
    (h : b.select cls name members kinds = .ok bound) :
    ∃ m ∈ members, b.bind? cls m kinds = some bound := by
  unfold select at h
  split at h
  · rename_i x hx
    cases h
    exact exists_member_of_best hx
  · cases h

/-- A binding is selected for some arguments, as a constructor or as a method of some name. -/
def Selects (b : Binder) (cls : ClassDef σ) (args : List Cell) (bound : Binding σ) : Prop :=
  b.constructor cls args = .ok bound ∨ ∃ name, b.method cls name args = .ok bound

/-- What is selected is a member of the class that qualified for the kinds of the arguments. -/
theorem Selects.exists_member {args : List Cell} (h : b.Selects cls args bound) :
    ∃ m ∈ cls.constructors ++ cls.methods, b.bind? cls m (args.map Cell.kind) = some bound := by
  rcases h with h | ⟨name, h⟩
  · obtain ⟨m, hm, hbind⟩ := exists_member_of_select h
    exact ⟨m, List.mem_append_left _ hm, hbind⟩
  · obtain ⟨m, hm, hbind⟩ := exists_member_of_select h
    exact ⟨m, List.mem_append_right _ (List.mem_of_mem_filter hm), hbind⟩

end Binder

/-! ## How arguments fail to bind -/

/-- The reasons for which arguments fail to bind where each has a converter. -/
def Failure.OfArguments (r : Registry) (args : List Cell) (f : Failure) : Prop :=
  f.kind = .invalidHandle ∨ f.kind = .nullArgument ∨ f.kind = .typeMismatch ∨
    ∃ arg ∈ args, f.LacksWithin r arg

namespace Failure

variable {r : Registry} {args : List Cell} {f : Failure}

/-- A handle that names nothing is a reason for which arguments fail to bind. -/
theorem ofArguments_invalidHandle (h : Handle) : OfArguments r args (.invalidHandle h) :=
  Or.inl rfl

/-- The want of a value is a reason for which arguments fail to bind. -/
theorem ofArguments_nullArgument (context : String) : OfArguments r args (.nullArgument context) :=
  Or.inr (Or.inl rfl)

/-- A value of another type is a reason for which arguments fail to bind. -/
theorem ofArguments_typeMismatch (expected found : String) :
    OfArguments r args (.typeMismatch expected found) :=
  Or.inr (Or.inr (Or.inl rfl))

/-- An argument that fails to be read makes the arguments fail to bind. -/
theorem OfReading.ofArguments {arg : Cell} (h : f.OfReading r arg) (harg : arg ∈ args) :
    f.OfArguments r args := by
  cases h with
  | nullArgument context => exact ofArguments_nullArgument context
  | typeMismatch expected found => exact ofArguments_typeMismatch expected found
  | invalidHandle h => exact ofArguments_invalidHandle h
  | lacking h => exact Or.inr (Or.inr (Or.inr ⟨arg, harg, h⟩))

/-- What makes some arguments fail to bind does so among more of them. -/
theorem OfArguments.mono {more : List Cell} (h : f.OfArguments r args)
    (hsub : ∀ arg ∈ args, arg ∈ more) : f.OfArguments r more := by
  rcases h with h | h | h | ⟨arg, harg, h⟩
  · exact Or.inl h
  · exact Or.inr (Or.inl h)
  · exact Or.inr (Or.inr (Or.inl h))
  · exact Or.inr (Or.inr (Or.inr ⟨arg, hsub arg harg, h⟩))

/-- No such reason is about the number of arguments or about the members of a class. -/
theorem OfArguments.kind_ne (h : f.OfArguments r args) :
    f.kind ≠ .resolution ∧ f.kind ≠ .noOverload := by
  have hkind : f.kind = .invalidHandle ∨ f.kind = .nullArgument ∨ f.kind = .typeMismatch ∨
      f.kind = .noConverter :=
    h.imp_right (Or.imp_right (Or.imp_right fun ⟨_, _, hlacks⟩ => hlacks.kind_eq))
  rcases hkind with hkind | hkind | hkind | hkind <;> simp [hkind]

/-- Where no argument is a grid, nothing lies within the arguments that could lack a converter. -/
theorem OfArguments.kind_ne_noConverter (h : f.OfArguments r args)
    (hargs : ∀ arg ∈ args, arg.kind ≠ .grid) : f.kind ≠ .noConverter := by
  rcases h with h | h | h | ⟨arg, harg, h⟩
  · simp [h]
  · simp [h]
  · simp [h]
  · exact absurd h.kind_eq_grid (hargs arg harg)

/-- A writing never fails for want of a member or of an overload. -/
theorem OfWriting.kind_ne (h : f.OfWriting) : f.kind ≠ .resolution ∧ f.kind ≠ .noOverload := by
  cases h <;> simp [kind]

end Failure

namespace Binding

variable {b : Binding σ} {binder : Binder} {m : Member σ} {a : Arena} {f : Failure}

/-! ## The receiver -/

/-- What is left of the arguments after the receiver: the failure is one of arguments, or some of
them are left that have the given kinds. -/
def LeavesKinds (r : Registry) (args : List Cell) (kinds : List CellKind) :
    Except Failure (Option Object × List Cell) → Prop
  | .error f => f.OfArguments r args
  | .ok (_, rest) => rest.map Cell.kind = kinds ∧ ∀ c ∈ rest, c ∈ args

/-- A reference as the receiver leads nowhere, or to an object of another class, or leaves the
arguments after it. -/
theorem leavesKinds_reference (r : Registry) (ht : b.takesReceiver = true) (h : Handle)
    (tag : String) (rest : List Cell) :
    LeavesKinds r (.reference h tag :: rest) (rest.map Cell.kind)
      (b.bindReceiver a (.reference h tag :: rest)) := by
  cases ho : a.get? h with
  | none =>
    have hget : b.bindReceiver a (.reference h tag :: rest) = .error (.invalidHandle h) := by
      simp only [bindReceiver, ht, if_true, Arena.get_of_none ho]
      rfl
    rw [hget]
    exact Failure.ofArguments_invalidHandle h
  | some o =>
    rw [bindReceiver_reference ht ho]
    split
    · exact ⟨rfl, fun c hc => List.mem_cons_of_mem _ hc⟩
    · exact Failure.ofArguments_typeMismatch _ _

/-- A receiver of a kind that selection lets pass fails as a reference does, and the arguments that
are left have the kinds that are left. -/
theorem leavesKinds_of_afterReceiver? (r : Registry) (ht : b.takesReceiver = !m.isStatic)
    {args : List Cell} {kinds : List CellKind}
    (hk : Binder.afterReceiver? m (args.map Cell.kind) = some kinds) :
    LeavesKinds r args kinds (b.bindReceiver a args) := by
  unfold Binder.afterReceiver? at hk
  cases hs : m.isStatic with
  | true =>
    rw [if_pos hs] at hk
    cases hk
    rw [bindReceiver_static (by rw [ht, hs]; rfl)]
    exact ⟨rfl, fun c hc => hc⟩
  | false =>
    have htakes : b.takesReceiver = true := by rw [ht, hs]; rfl
    rw [if_neg (by simp [hs])] at hk
    cases args with
    | nil => cases hk
    | cons c rest =>
      cases c with
      | reference h tag =>
        cases hk
        exact leavesKinds_reference r htakes h tag rest
      | missing =>
        rw [bindReceiver_missing htakes]
        exact Failure.ofArguments_nullArgument _
      | _ => cases hk

/-! ## Fixed parameters -/

/-- An argument that got a slot is read by the converter of the slot, if at all. -/
theorem ofReading_of_bindOne (hr : b.registry = binder.registry) {declared : DeclType}
    {slot : ParamSlot} {c : Cell} (hs : binder.slot? declared c.kind = some slot) {position : Nat}
    (h : b.bindOne a position slot c = .error f) : f.OfReading binder.registry c := by
  unfold Binder.slot? at hs
  split at hs
  · rename_i hc
    cases hs
    obtain rfl := Cell.kind_eq_missing_iff.1 hc.1
    rw [bindOne_of_missing b a position hc.2] at h
    split at h
    · cases h
      exact .nullArgument _
    · cases h
  · rename_i hc
    obtain ⟨k, hk, rfl⟩ := Option.map_eq_some_iff.1 hs
    have hread : (c.isMissing && !declared.isCell) = false := by
      rw [Bool.eq_false_iff]
      intro hmissing
      simp only [Bool.and_eq_true, Cell.isMissing_iff, Bool.not_eq_true'] at hmissing
      exact hc ⟨Cell.kind_eq_missing_iff.2 hmissing.1, hmissing.2⟩
    have hreads : k.reads c.kind = true := (Registry.of_reader?_eq_some hk).2.1
    rw [bindOne_of_converter b a position hread rfl hreads, hr] at h
    exact Registry.ofReading_of_readWith h

/-- Where each fixed argument has a converter, it fails to bind for reasons of arguments alone. -/
theorem ofArguments_of_bindFixed (hr : b.registry = binder.registry) {types : List DeclType}
    {args : List Cell} {slots : List ParamSlot}
    (hs : List.Forall₂ (fun p s => binder.slot? p.1 p.2 = some s)
      (types.zip (args.map Cell.kind)) slots)
    {position : Nat} (h : b.bindFixed a position slots args = .error f) :
    f.OfArguments binder.registry args := by
  induction args generalizing types slots position with
  | nil =>
    cases slots <;> cases h
  | cons c cs ih =>
    cases types with
    | nil =>
      cases hs
      cases h
    | cons t ts =>
      cases hs with
      | cons hslot hslots =>
        rcases bind_eq_error_iff.1 h with h | ⟨v, -, h⟩
        · exact (ofReading_of_bindOne hr hslot h).ofArguments List.mem_cons_self
        · rcases bind_eq_error_iff.1 h with h | ⟨vs, -, h⟩
          · exact (ih hslots h).mono fun arg harg => List.mem_cons_of_mem _ harg
          · cases h

/-! ## Further arguments -/

/-- A further argument that counts for the score is missing or has a converter. -/
theorem exists_reader_of_tailScore? {component : DeclType} {kind : CellKind} {score : Int32}
    (h : binder.tailScore? component kind = some score) :
    (kind = .missing ∧ component.isCell = false) ∨
      ∃ k, binder.registry.reader? component kind = some k := by
  unfold Binder.tailScore? at h
  split at h
  · exact Or.inl ‹_›
  · obtain ⟨k, hk, -⟩ := Option.map_eq_some_iff.1 h
    exact Or.inr ⟨k, hk⟩

/-- What one further argument is read as fails as its reading does. -/
theorem ofReading_of_tailScore? {component : DeclType} {c : Cell} {score : Int32}
    (hs : binder.tailScore? component c.kind = some score)
    (hc : (c.isMissing && !component.isCell) = false)
    (h : binder.registry.read a component c = .error f) : f.OfReading binder.registry c := by
  rcases exists_reader_of_tailScore? hs with ⟨hkind, hcell⟩ | ⟨k, hk⟩
  · rw [Cell.kind_eq_missing_iff.1 hkind, hcell] at hc
    cases hc
  · exact Registry.ofReading_of_read hk h

/-- **Further arguments together are read as selection read them one by one**: the row that they
make has them for its cells, and its elements are of the type that each was tried for. -/
theorem ofArguments_of_readItems {component : DeclType} (hc : component.isContainer = false)
    {tail : List Cell}
    (hs : ∀ arg ∈ tail, ∃ score, binder.tailScore? component arg.kind = some score)
    (h : Reading.readItems (binder.registry.read a) (.array component) (Cell.row tail) = .error f) :
    f.OfArguments binder.registry tail := by
  rcases tail with _ | ⟨c, cs⟩
  · rw [Cell.row_nil] at h
    cases h
  · have helem : Reading.elementType (.array component) = component := by
      rw [Reading.elementType, DeclType.element?_array]
      rfl
    rw [Cell.row_cons] at h
    simp only [Reading.readItems, helem, hc, Bool.false_eq_true, if_false] at h
    split at h
    · cases h
    · obtain ⟨arg, harg, h⟩ := exists_of_mapM_eq_error h
      have hmem : arg ∈ c :: cs := by simpa using harg
      rcases Reading.readElement_eq_error h with ⟨-, -, rfl⟩ | ⟨hread, h⟩
      · exact Failure.ofArguments_nullArgument _
      · obtain ⟨score, hscore⟩ := hs arg hmem
        exact (ofReading_of_tailScore? hscore hread h).ofArguments hmem

/-- Whatever converter was found for the array of the further arguments, the row that they make
fails as they do. -/
theorem ofArguments_of_bindRow {component : DeclType} (hc : component.isContainer = false)
    {k : Converter} (hp : k.produces (.array component) = true) {tail : List Cell}
    (hs : ∀ arg ∈ tail, ∃ score, binder.tailScore? component arg.kind = some score)
    (h : binder.registry.readWith a k (.array component) (Cell.row tail) = .error f) :
    f.OfArguments binder.registry tail := by
  obtain ⟨rows, hrows, -⟩ := Cell.isRectangular_row tail
  unfold Registry.readWith Reading.readBy at h
  split at h
  · cases h
    exact Failure.ofArguments_nullArgument _
  · split at h
    · cases h
      exact Failure.ofArguments_typeMismatch _ _
    · rcases Converter.produces_cases hp with ⟨hf, -⟩ | ⟨-, hh⟩ | ⟨-, hh⟩ | ⟨hf, -⟩ | ⟨hf, hh⟩
      · rw [hf] at h
        have harray : Reading.readArray (binder.registry.read a) (.array component)
            (Cell.row tail) = .error f := h
        rw [Reading.readArray, if_pos (show (DeclType.array component).isArray = true from rfl)] at harray
        exact ofArguments_of_readItems hc hs (map_eq_error_iff.1 harray)
      · cases hh
      · cases hh
      · rw [hf, hrows] at h
        cases h
        exact Failure.ofArguments_typeMismatch _ _
      · -- a plain form is for a class, and an array type is none
        obtain ⟨s, hs, -⟩ := ConverterForm.valueType_of_ne_array (ConverterForm.ne_array_of_isPlain hf)
        rw [Converter.valueType, hs, DeclType.accepts_array_of_raw rfl] at hh
        cases hh

/-- Where each further argument has a converter, they fail to bind for reasons of arguments alone.
-/
theorem ofArguments_of_bindTail (hr : b.registry = binder.registry) {component : DeclType}
    {tail : List Cell} {va : VarargSlot} {scores : List Int32}
    (hva : binder.varargs? (.array component) (tail.map Cell.kind) = some (va, scores))
    (h : b.bindTail a va tail = .error f) : f.OfArguments binder.registry tail := by
  rw [Binder.varargs?, DeclType.element?_array, Option.bind_eq_bind, Option.bind_some] at hva
  obtain ⟨scores', hscores, hva⟩ := Option.bind_eq_some_iff.1 hva
  obtain ⟨k, hk, hva⟩ := Option.bind_eq_some_iff.1 hva
  cases hva
  have hs : ∀ arg ∈ tail, ∃ score, binder.tailScore? component arg.kind = some score :=
    fun arg harg => exists_of_mapM_eq_some hscores (List.mem_map_of_mem harg)
  by_cases hc : component.isContainer = true
  · rw [bindTail_of_container b a (DeclType.element?_array component) hc] at h
    obtain ⟨arg, harg, h⟩ := exists_of_mapM_eq_error (map_eq_error_iff.1 h)
    unfold bindTrailing at h
    split at h
    · cases h
    · rename_i hmissing
      rw [hr] at h
      obtain ⟨score, hscore⟩ := hs arg harg
      have hread : (arg.isMissing && !component.isCell) = false := by simp [hmissing]
      exact (ofReading_of_tailScore? hscore hread h).ofArguments harg
  · rw [Bool.not_eq_true] at hc
    rw [bindTail_of_row b a (DeclType.element?_array component) hc, hr] at h
    exact ofArguments_of_bindRow hc (Registry.of_reader?_eq_some hk).2.2 hs h

/-! ## All arguments -/

/-- A binding takes the numbers of arguments that its member does. -/
theorem fitsArity_of_isFor {cls : ClassDef σ} (hb : b.IsFor cls m)
    (hm : m.isVariadic = true → ∃ component, m.vararg? = some (.array component)) (n : Nat) :
    b.fitsArity n = Binder.fitsArity m n := by
  have hlength : b.params.length = m.fixedParams.length := hb.params.length_eq.symm
  have hsome : b.varargs.isSome = m.isVariadic := by
    by_cases hv : m.isVariadic = true
    · obtain ⟨component, hc⟩ := hm hv
      obtain ⟨va, hva, -⟩ := hb.exists_varargs_eq_some hc
      rw [hva, hv]
      rfl
    · rw [Bool.not_eq_true] at hv
      rw [hb.varargs_eq_none (Member.vararg?_of_fixed hv), hv]
      rfl
  rw [fitsArity, Binder.fitsArity, hlength, hsome]

/-- The arguments after the receiver are as many as the binding takes, and fail as one of them. -/
theorem ofArguments_of_bindArgs (hr : b.registry = binder.registry) {args : List Cell}
    (hfits : b.fitsArity args.length = true)
    (hslots : List.Forall₂ (fun p s => binder.slot? p.1 p.2 = some s)
      (m.fixedParams.zip (args.map Cell.kind)) b.params)
    (hlength : b.params.length = m.fixedParams.length)
    (hm : m.isVariadic = true → ∃ component, m.vararg? = some (.array component))
    {scores : List Int32}
    (htail : binder.tail? m ((args.map Cell.kind).drop m.fixedParams.length) =
      some (b.varargs, scores))
    (h : b.bindArgs a args = .error f) : f.OfArguments binder.registry args := by
  rw [bindArgs, if_pos hfits] at h
  rcases bind_eq_error_iff.1 h with h | ⟨fixed, -, h⟩
  · exact ofArguments_of_bindFixed hr hslots h
  · by_cases hv : m.isVariadic = true
    · obtain ⟨component, hc⟩ := hm hv
      rw [Binder.tail?, hc, ← List.map_drop] at htail
      obtain ⟨⟨va, scores'⟩, hva, hpair⟩ := Option.map_eq_some_iff.1 htail
      obtain ⟨hvarargs, -⟩ := Prod.mk.inj hpair
      rw [← hvarargs] at h
      rcases bind_eq_error_iff.1 h with h | ⟨rest, -, h⟩
      · rw [hlength] at h
        exact (ofArguments_of_bindTail hr hva h).mono fun arg harg => List.mem_of_mem_drop harg
      · cases h
    · rw [Bool.not_eq_true] at hv
      rw [Binder.tail?, Member.vararg?_of_fixed hv] at htail
      obtain ⟨hvarargs, -⟩ := Prod.mk.inj (Option.some.inj htail)
      rw [← hvarargs] at h
      cases h

/-- **The arguments that a binding was made for** fail to bind as the reading of one of them fails,
by a converter that was found for it. -/
theorem ofArguments_of_bindCall {cls : ClassDef σ}
    (hm : m.isVariadic = true → ∃ component, m.vararg? = some (.array component))
    {args : List Cell} (hb : binder.bind? cls m (args.map Cell.kind) = some b)
    (h : b.bindCall a args = .error f) : f.OfArguments binder.registry args := by
  have hfor := Binder.isFor_of_bind? hb
  have harity := fitsArity_of_isFor hfor hm
  obtain ⟨kinds, slots, va, scores, hkinds, hfits, hslots, htail, hbound⟩ :=
    Binder.bind?_eq_some_iff.1 hb
  have hr : b.registry = binder.registry := by rw [hbound]
  have hparams : b.params = slots := by rw [hbound]
  have hvarargs : b.varargs = va := by rw [hbound]
  subst hparams hvarargs
  have hleft := leavesKinds_of_afterReceiver? (a := a) binder.registry hfor.takesReceiver_eq hkinds
  rcases bind_eq_error_iff.1 h with h | ⟨⟨receiver, rest⟩, hrest, h⟩
  · rw [h] at hleft
    exact hleft
  · rw [hrest] at hleft
    obtain ⟨rfl, hsub⟩ := hleft
    rw [List.length_map] at hfits
    rcases bind_eq_error_iff.1 h with h | ⟨values, -, h⟩
    · exact (ofArguments_of_bindArgs hr ((harity _).trans hfits) hslots
        hfor.params.length_eq.symm hm htail h).mono hsub
    · cases h

/-! ## Invocations -/

/-- What a body comes to is no failure of another sort than its own. -/
theorem kind_of_settle {b : Binding σ} {o : Outcome} (h : b.settle o = .error (.failure f)) :
    f.kind = .invocation := by
  cases o with
  | value v => cases h
  | failed cause =>
    cases h
    rfl
  | panicked payload =>
    rw [settle] at h
    split at h
    · cases h
      rfl
    · cases h

/-- An invocation fails as its arguments do, as its body does, or as the writing of its result. -/
theorem kind_ne_of_invoke {r : Registry} {args : List Cell} {h : Host σ}
    (hargs : ∀ f, b.bindCall h.arena args = .error f → f.OfArguments r args)
    (hf : (b.invoke args h).1 = .error (.failure f)) :
    f.kind ≠ .resolution ∧ f.kind ≠ .noOverload := by
  rcases hcall : b.bindCall h.arena args with g | ⟨receiver, values⟩
  · rw [invoke_of_bind_error hcall] at hf
    cases hf
    exact (hargs f hcall).kind_ne
  · rcases hsettle : b.settle ((b.runBody receiver values).run h.world).1 with e | v
    · rw [invoke_of_body_error hcall hsettle] at hf
      cases hf
      simp [kind_of_settle hsettle]
    · rw [invoke_of_value hcall hsettle] at hf
      have hends := b.ends_marshal v h.arena
      rcases hwritten : ((b.marshal v).runOn h.arena).1 with g | c
      · rw [hwritten] at hf hends
        cases hf
        exact hends.kind_ne
      · rw [hwritten] at hf
        cases hf

/-- **What was selected for some arguments can be invoked with them**, in every registry and for
every class that was built, constructors and methods alike. No invocation fails over its arity, its
receiver being left out, or for want of a member. Its arguments fail to bind only because a
reference names no object, a value is missing, one is of another form than its converter reads, or
there is no converter for something within a grid among them: for a cell in it, or for a row of it
that is read as a grid of its own. In particular each argument itself has a converter, and where no
argument is a grid none is lacking at all. -/
theorem failure_of_selected (d : ClassDraft σ) (cls : ClassDef σ) (hd : d.build = .ok cls)
    (binder : Binder) (args : List Cell) (bound : Binding σ)
    (hb : binder.Selects cls args bound) (h : Host σ) :
    (∀ f, (bound.invoke args h).1 = .error (.failure f) →
        f.kind ≠ .resolution ∧ f.kind ≠ .noOverload) ∧
      (∀ f, bound.bindCall h.arena args = .error f →
        f.kind = .invalidHandle ∨ f.kind = .nullArgument ∨ f.kind = .typeMismatch ∨
          ∃ arg ∈ args, f.LacksWithin binder.registry arg) ∧
      ((∀ arg ∈ args, arg.kind ≠ .grid) → ∀ f, bound.bindCall h.arena args = .error f →
        f.kind ≠ .noConverter) := by
  obtain ⟨m, hm, hbind⟩ := hb.exists_member
  have harguments : ∀ f, bound.bindCall h.arena args = .error f →
      f.OfArguments binder.registry args :=
    fun f hf => ofArguments_of_bindCall (Member.exists_vararg?_eq_array hd hm) hbind hf
  refine ⟨fun f hf => kind_ne_of_invoke harguments hf, harguments, fun hargs f hf => ?_⟩
  exact (harguments f hf).kind_ne_noConverter hargs

/-- A method for a list of maps, in a registry without converter for maps. A row of its argument
lacks a converter; where both arguments are missing, nothing does. -/
theorem failure_of_selected_load :
    let load : Member Unit :=
      { name := "load"
        params := [.generic .list [.generic .map [.plain .string, .plain (.boxed .boolean)]],
          .plain (.primitive .boolean)]
        result := .plain (.primitive .boolean)
        isStatic := true
        body := fun _ _ => pure (.value (.boolean true)) }
    let draft : ClassDraft Unit := { name := "Book", methods := [load] }
    let binder : Binder := { registry := (Registry.Draft.ofStock.remove .map .grid).build }
    let host : Host Unit := { arena := {}, world := () }
    let args : List Cell := [.grid [[.text "eur", .boolean true]], .boolean true]
    let none : List Cell := [.missing, .missing]
    ∃ cls, draft.build = .ok cls ∧
      (∃ bound, binder.Selects cls args bound ∧ ∃ f, bound.bindCall {} args = .error f ∧
        f.kind = .noConverter ∧ ∃ arg ∈ args, f.LacksWithin binder.registry arg) ∧
      ∃ bound, binder.Selects cls none bound ∧ ∃ f, bound.bindCall {} none = .error f ∧
        (bound.invoke none host).1 = .error (.failure f) ∧ f.kind ≠ .noOverload ∧
        f.kind ≠ .noConverter := by
  intro load draft binder host args none
  refine ⟨_, rfl, ⟨_, Or.inr ⟨"load", rfl⟩, _, rfl, rfl, ?_⟩,
    ⟨_, Or.inr ⟨"load", rfl⟩, _, rfl, rfl, ?_, ?_⟩⟩
  · obtain ⟨-, hbind, -⟩ :=
      failure_of_selected draft _ rfl binder args _ (Or.inr ⟨"load", rfl⟩) host
    rcases hbind _ rfl with h | h | h | h
    · cases h
    · cases h
    · cases h
    · exact h
  · exact ((failure_of_selected draft _ rfl binder none _ (Or.inr ⟨"load", rfl⟩) host).1 _ rfl).2
  · refine (failure_of_selected draft _ rfl binder none _ (Or.inr ⟨"load", rfl⟩) host).2.2 ?_ _ rfl
    intro arg harg
    rcases List.mem_cons.1 harg with rfl | harg
    · simp [Cell.kind]
    · rw [List.mem_singleton.1 harg]
      simp [Cell.kind]

/-- Not only cells in a grid can lack a converter: here no cell in the argument does,
but its row, which is to be read as a map. -/
theorem exists_row_without_converter :
    ¬ ∀ (d : ClassDraft Unit) (cls : ClassDef Unit), d.build = .ok cls →
      ∀ (binder : Binder) (args : List Cell) (bound : Binding Unit),
        binder.Selects cls args bound → ∀ (h : Host Unit) (f : Failure),
          bound.bindCall h.arena args = .error f →
            f.kind = .invalidHandle ∨ f.kind = .nullArgument ∨ f.kind = .typeMismatch ∨
              ∃ arg ∈ args, ∃ c : Cell, c.Inside arg ∧ ∃ type : DeclType,
                f = .noConverter type.display c.kind.word := by
  intro hcells
  let load : Member Unit :=
    { name := "load"
      params := [.generic .list [.generic .map [.plain .string, .plain (.boxed .boolean)]]]
      result := .plain (.primitive .boolean)
      isStatic := true
      body := fun _ _ => pure (.value (.boolean true)) }
  have h := hcells { name := "Book", methods := [load] } _ rfl
    { registry := (Registry.Draft.ofStock.remove .map .grid).build }
    [.grid [[.text "eur", .boolean true]]] _ (Or.inr ⟨"load", rfl⟩)
    { arena := {}, world := () } _ rfl
  rcases h with h | h | h | ⟨arg, harg, c, hc, type, hf⟩
  · cases h
  · cases h
  · cases h
  · have hkind : c.kind = .grid := by
      have hword : CellKind.grid.word = c.kind.word := (Failure.noConverter.inj hf).2
      exact (CellKind.word_injective hword).symm
    rw [List.mem_singleton.1 harg] at hc
    rcases hc with ⟨hrow, hd⟩ | ⟨hrow, he, hdeep⟩
    · simp only [List.mem_singleton] at hrow
      subst hrow
      simp only [List.mem_cons, List.not_mem_nil, or_false] at hd
      rcases hd with rfl | rfl
      · cases hkind
      · cases hkind
    · simp only [List.mem_singleton] at hrow
      subst hrow
      simp only [List.mem_cons, List.not_mem_nil, or_false] at he
      rcases he with rfl | rfl
      · cases hdeep
      · cases hdeep

end Binding

end CellMarshal
