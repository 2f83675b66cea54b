import CellMarshal.Binding.Basic
import CellMarshal.Registry.Read

/-!
# Binding arguments

A bound member takes its receiver from the first argument, reads one argument for each fixed
parameter, and reads all further ones for the array of a variadic member: together, as one row, or
each on its own where the component is a container. A missing argument is no value, which a
primitive parameter cannot take and a parameter declared as a cell takes as it is. Main statements:
the equations of `bindReceiver` (`bindReceiver_static`, `bindReceiver_reference`, …), of `bindOne`
(`bindOne_of_missing`, `bindOne_of_converter`, `bindOne_of_unread`) and of `bindTail`
(`bindTail_of_container`, `bindTail_of_row`).
-/

namespace CellMarshal.Binding

variable {σ : Type}

/-! ## The receiver -/

/-- The object that the first argument refers to, which has to be of the member's class, and the
arguments that are left. -/
def bindReceiver (b : Binding σ) (a : Arena) (args : List Cell) :
    Except Failure (Option Object × List Cell) :=
  if b.takesReceiver then
    match args with
    | [] => .error (.resolution (b.memberName ++ " needs a receiver argument"))
    | .reference h _ :: rest => do
      let o ← a.get h
      if o.classId.isInstanceOf b.cls.name then pure (some o, rest)
      else .error (.typeMismatch b.cls.name o.classId.name)
    | .missing :: _ => .error (.nullArgument ("receiver of " ++ b.memberName))
    | c :: _ => .error (.unexpectedCell .reference c)
  else .ok (none, args)

/-- A static member takes no receiver, and leaves all arguments to its parameters. -/
theorem bindReceiver_static {b : Binding σ} (h : b.takesReceiver = false) (a : Arena)
    (args : List Cell) : b.bindReceiver a args = .ok (none, args) := by
  simp [bindReceiver, h]

/-- A receiver has to be among the arguments. -/
theorem bindReceiver_nil {b : Binding σ} (h : b.takesReceiver = true) (a : Arena) :
    b.bindReceiver a [] = .error (.resolution (b.memberName ++ " needs a receiver argument")) := by
  simp [bindReceiver, h]

/-- A receiver that is missing is a failure for want of a value. -/
theorem bindReceiver_missing {b : Binding σ} (h : b.takesReceiver = true) (a : Arena)
    (rest : List Cell) :
    b.bindReceiver a (.missing :: rest) =
      .error (.nullArgument ("receiver of " ++ b.memberName)) := by
  simp [bindReceiver, h]

/-- A reference is followed to the receiver, which has to be of the member's class. -/
theorem bindReceiver_reference {b : Binding σ} (h : b.takesReceiver = true) {a : Arena}
    {handle : Handle} {o : Object} (ho : a.get? handle = some o) (tag : String)
    (rest : List Cell) :
    b.bindReceiver a (.reference handle tag :: rest) =
      if o.classId.isInstanceOf b.cls.name then .ok (some o, rest)
      else .error (.typeMismatch b.cls.name o.classId.name) := by
  simp only [bindReceiver, h, if_true, Arena.get_of_some ho]
  rfl

/-! ## Fixed parameters -/

/-- The value for one parameter; `position` counts from zero. -/
def bindOne (b : Binding σ) (a : Arena) (position : Nat) (slot : ParamSlot) (c : Cell) :
    Except Failure Value :=
  if c.isMissing && !slot.declared.isCell then
    if slot.declared.isPrimitive then
      .error (.nullArgument ("argument " ++ toString position ++ " of " ++ b.memberName ++
        " is missing but declared " ++ slot.declared.display))
    else .ok .null
  else
    match slot.converter.filter fun k => k.reads c.kind with
    | some k => b.registry.readWith a k slot.declared c
    | none => b.registry.read a slot.declared c

/-- A missing argument is no value, and fails for a primitive parameter. -/
theorem bindOne_of_missing (b : Binding σ) (a : Arena) (position : Nat) {slot : ParamSlot}
    (h : slot.declared.isCell = false) :
    b.bindOne a position slot .missing =
      if slot.declared.isPrimitive then
        .error (.nullArgument ("argument " ++ toString position ++ " of " ++ b.memberName ++
          " is missing but declared " ++ slot.declared.display))
      else .ok .null := by
  simp [bindOne, h]

/-- A converter that was picked reads the argument, provided that it reads cells of its kind. -/
theorem bindOne_of_converter (b : Binding σ) (a : Arena) (position : Nat) {slot : ParamSlot}
    {k : Converter} {c : Cell} (hc : (c.isMissing && !slot.declared.isCell) = false)
    (hs : slot.converter = some k) (hk : k.reads c.kind = true) :
    b.bindOne a position slot c = b.registry.readWith a k slot.declared c := by
  simp only [bindOne, hc, Bool.false_eq_true, if_false, hs, Option.filter_some, hk, if_true]

/-- Any other argument is read by the registry. -/
theorem bindOne_of_unread (b : Binding σ) (a : Arena) (position : Nat) {slot : ParamSlot}
    {c : Cell} (hc : (c.isMissing && !slot.declared.isCell) = false)
    (hs : (slot.converter.filter fun k => k.reads c.kind) = none) :
    b.bindOne a position slot c = b.registry.read a slot.declared c := by
  simp only [bindOne, hc, Bool.false_eq_true, if_false, hs]

/-- The values for some parameters, counted from `position`. -/
def bindFixed (b : Binding σ) (a : Arena) : Nat → List ParamSlot → List Cell →
    Except Failure (List Value)
  | position, slot :: slots, c :: cs => do
    let v ← b.bindOne a position slot c
    let vs ← b.bindFixed a (position + 1) slots cs
    pure (v :: vs)
  | _, _, _ => .ok []

/-! ## Further arguments -/

/-- The value of one further argument for a component that is a container. -/
def bindTrailing (b : Binding σ) (a : Arena) (component : DeclType) (c : Cell) :
    Except Failure Value :=
  if c.isMissing then .ok .null else b.registry.read a component c

/-- The array of the further arguments. -/
def bindTail (b : Binding σ) (a : Arena) (va : VarargSlot) (tail : List Cell) :
    Except Failure Value :=
  match va.arrayType.element?.filter DeclType.isContainer with
  | some component => (tail.mapM (b.bindTrailing a component)).map .array
  | none => b.registry.readWith a va.converter va.arrayType (Cell.row tail)

/-- Further arguments for a container component are read on their own, one element each. -/
theorem bindTail_of_container (b : Binding σ) (a : Arena) {va : VarargSlot} {component : DeclType}
    (he : va.arrayType.element? = some component) (hc : component.isContainer = true)
    (tail : List Cell) :
    b.bindTail a va tail = (tail.mapM (b.bindTrailing a component)).map .array := by
  simp only [bindTail, he, Option.filter_some, hc, if_true]

/-- All other further arguments are read together, as one row. -/
theorem bindTail_of_row (b : Binding σ) (a : Arena) {va : VarargSlot} {component : DeclType}
    (he : va.arrayType.element? = some component) (hc : component.isContainer = false)
    (tail : List Cell) :
    b.bindTail a va tail = b.registry.readWith a va.converter va.arrayType (Cell.row tail) := by
  simp only [bindTail, he, Option.filter_some, hc, Bool.false_eq_true, if_false]

/-! ## All arguments -/

/-- Whether a number of arguments fits the binding. -/
def fitsArity (b : Binding σ) (n : Nat) : Bool :=
  if b.varargs.isSome then b.params.length ≤ n else n = b.params.length

/-- What is wrong with a number of arguments. -/
def arityFailure (b : Binding σ) (n : Nat) : Failure :=
  .resolution (b.memberName ++ " takes " ++ (if b.varargs.isSome then "at least " else "") ++
    toString b.params.length ++ " arguments, got " ++ toString n)

/-- The values for the arguments after the receiver. -/
def bindArgs (b : Binding σ) (a : Arena) (args : List Cell) : Except Failure (List Value) :=
  if b.fitsArity args.length then do
    let fixed ← b.bindFixed a 0 b.params args
    match b.varargs with
    | none => pure fixed
    | some va => do
      let rest ← b.bindTail a va (args.drop b.params.length)
      pure (fixed ++ [rest])
  else .error (b.arityFailure args.length)

/-- The receiver and the values that a call passes to the body. -/
def bindCall (b : Binding σ) (a : Arena) (args : List Cell) :
    Except Failure (Option Object × List Value) := do
  let (receiver, rest) ← b.bindReceiver a args
  let values ← b.bindArgs a rest
  pure (receiver, values)

end CellMarshal.Binding
