import CellMarshal.Binding.Arguments
import CellMarshal.Registry.Write

/-!
# Invoking bound members

A call binds its arguments, runs the body in the world of the members, and turns what comes back
into a cell. `Host` is what a call may change: the arena, and the members' world. Main statements:
`invoke_of_bind_error` (nothing runs and nothing changes), `invoke_of_body_error` and
`invoke_of_value`.
-/

namespace CellMarshal

/-- The arena, and the world that bodies run in. -/
structure Host (σ : Type) where
  arena : Arena
  world : σ

/-- Why a call gave no cell: a failure, or a panic that nothing caught. -/
inductive Abort where
  | failure (f : Failure)
  | panic (payload : Option String)
  deriving DecidableEq, Repr

variable {σ : Type}

namespace Binding

/-- Runs the body, or reads the field. -/
def runBody (b : Binding σ) (receiver : Option Object) (values : List Value) : StateM σ Outcome :=
  match b.target with
  | .member m => m.body receiver values
  | .field f => f.get receiver

/-- How a failure names a panic that was caught. -/
def panicCause (payload : Option String) : Cause :=
  .message ("panicked: " ++ payload.getD "non-string panic payload")

/-- The value that a body came to. A panic becomes a failure where the binding guards against it. -/
def settle (b : Binding σ) : Outcome → Except Abort Value
  | .value v => .ok v
  | .failed cause => .error (.failure (.invocation b.memberName cause))
  | .panicked payload =>
    if b.guarded then .error (.failure (.invocation b.memberName (panicCause payload)))
    else .error (.panic payload)

/-- Writes a result that is a cell or a reference as it is, and hands any other over. -/
def passResult : Value → Writing Cell
  | .cell c => pure c
  | v => Writing.writeObject v

/-- Hands a result over, unless it is a reference already. -/
def boxResult : Value → Writing Cell
  | .cell (.reference h t) => pure (.reference h t)
  | v => Writing.writeObject v

/-- Turns a result into a cell. -/
def marshal (b : Binding σ) (v : Value) : Writing Cell :=
  if v.isNull || b.resultType.isVoid then pure .missing
  else
    match b.plan with
    | .converted k => b.registry.writeWith k b.resultType v
    | .dynamic => b.registry.writeValue v
    | .passThrough => passResult v
    | .boxing => boxResult v

/-- Calls the bound member. -/
def invoke (b : Binding σ) (args : List Cell) (h : Host σ) : Except Abort Cell × Host σ :=
  match b.bindCall h.arena args with
  | .error f => (.error (.failure f), h)
  | .ok (receiver, values) =>
    let ran := (b.runBody receiver values).run h.world
    match b.settle ran.1 with
    | .error e => (.error e, { h with world := ran.2 })
    | .ok v =>
      let written := (b.marshal v).runOn h.arena
      (written.1.mapError .failure, { arena := written.2, world := ran.2 })

/-- Where binding fails, nothing runs and nothing changes. -/
theorem invoke_of_bind_error {b : Binding σ} {args : List Cell} {h : Host σ} {f : Failure}
    (hb : b.bindCall h.arena args = .error f) :
    b.invoke args h = (.error (.failure f), h) := by
  simp [invoke, hb]

/-- Where the body gives no value, the arena stays as it was. -/
theorem invoke_of_body_error {b : Binding σ} {args : List Cell} {h : Host σ}
    {receiver : Option Object} {values : List Value} {e : Abort}
    (hb : b.bindCall h.arena args = .ok (receiver, values))
    (hs : b.settle ((b.runBody receiver values).run h.world).1 = .error e) :
    b.invoke args h =
      (.error e, { h with world := ((b.runBody receiver values).run h.world).2 }) := by
  simp only [invoke, hb, hs]

/-- Where the body gives a value, what is left is to write it on the arena from before the call. -/
theorem invoke_of_value {b : Binding σ} {args : List Cell} {h : Host σ}
    {receiver : Option Object} {values : List Value} {v : Value}
    (hb : b.bindCall h.arena args = .ok (receiver, values))
    (hs : b.settle ((b.runBody receiver values).run h.world).1 = .ok v) :
    b.invoke args h =
      (((b.marshal v).runOn h.arena).1.mapError .failure,
        { arena := ((b.marshal v).runOn h.arena).2
          world := ((b.runBody receiver values).run h.world).2 }) := by
  simp only [invoke, hb, hs]

end Binding

end CellMarshal
