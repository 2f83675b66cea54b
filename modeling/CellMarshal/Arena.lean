import CellMarshal.Failure
import CellMarshal.Table
import CellMarshal.Value.Instance

/-!
# The arena

A host cannot hold objects; it holds handles, and the arena keeps the objects that the handles name.
Handles are counted up from 1 and never used again, and an object that is held keeps the one handle
it was given. Under `Retention.counted` every hand-over counts as a reference, `release` gives one
back, and an object goes when its last reference does; under `Retention.keep` nothing ever goes.

The arena has two tables, from handles to objects and from identities to handles. Main statements:
`put_of_held` and `put_of_new` (what handing over does), `release_of_unknown`, `release_of_keep`,
`release_of_shared` and `release_of_last` (what giving back does).
-/

namespace CellMarshal

/-- When an object may leave the arena. -/
inductive Retention where
  | keep
  | counted
  deriving DecidableEq, Repr

/-- An object in the arena, with the number of times it was handed over and not given back. -/
structure Slot where
  object : Object
  refs : Nat

/-- The objects that a host holds handles of. -/
structure Arena where
  retention : Retention := .keep
  next : Handle := 1
  byHandle : Table Handle Slot := {}
  byIdentity : Table Identity Handle := {}

namespace Arena

/-! ## Looking up -/

/-- The object of a handle. -/
def get? (a : Arena) (h : Handle) : Option Object :=
  (a.byHandle.find? h).map Slot.object

/-- The object of a handle, which has to name one. -/
def get (a : Arena) (h : Handle) : Except Failure Object :=
  match a.get? h with
  | some o => .ok o
  | none => .error (.invalidHandle h)

/-- The handle of an object that is held. -/
def handleOf? (a : Arena) (o : Object) : Option Handle :=
  a.byIdentity.find? o.identity

/-- Whether a handle names an object. -/
def holds (a : Arena) (h : Handle) : Bool :=
  a.byHandle.contains h

/-- The number of references to the object of a handle. -/
def refs (a : Arena) (h : Handle) : Nat :=
  ((a.byHandle.find? h).map Slot.refs).getD 0

/-- The number of objects held. -/
def size (a : Arena) : Nat :=
  a.byHandle.size

/-- A handle that names an object gives it. -/
theorem get_of_some {a : Arena} {h : Handle} {o : Object} (ho : a.get? h = some o) :
    a.get h = .ok o := by
  simp [get, ho]

/-- A handle that names nothing is invalid. -/
theorem get_of_none {a : Arena} {h : Handle} (ho : a.get? h = none) :
    a.get h = .error (.invalidHandle h) := by
  simp [get, ho]

/-! ## Handing over -/

/-- One more reference to an object. -/
def Slot.share (s : Slot) : Slot :=
  { s with refs := s.refs + 1 }

/-- Hands an object over: the handle it has, with one more reference, or the next new handle. -/
def put (a : Arena) (o : Object) : Handle × Arena :=
  match a.byIdentity.find? o.identity with
  | some h => (h, { a with byHandle := a.byHandle.modify h Slot.share })
  | none =>
    (a.next,
      { a with
        next := a.next + 1
        byHandle := a.byHandle.insert a.next { object := o, refs := 1 }
        byIdentity := a.byIdentity.insert o.identity a.next })

/-- An object that is held already is put under the handle that it has, which counts one reference
more. -/
theorem put_of_held {a : Arena} {o : Object} {h : Handle} (ho : a.handleOf? o = some h) :
    a.put o = (h, { a with byHandle := a.byHandle.modify h Slot.share }) := by
  unfold handleOf? at ho
  simp [put, ho]

/-- An object that is not held is put under the next handle, with one reference. -/
theorem put_of_new {a : Arena} {o : Object} (ho : a.handleOf? o = none) :
    a.put o =
      (a.next,
        { a with
          next := a.next + 1
          byHandle := a.byHandle.insert a.next { object := o, refs := 1 }
          byIdentity := a.byIdentity.insert o.identity a.next }) := by
  unfold handleOf? at ho
  simp [put, ho]

/-- Hands an object over and gives the reference that names it, tagged with its class. -/
def handOver (a : Arena) (o : Object) : Cell × Arena :=
  let (h, a) := a.put o
  (.reference h o.classId.name, a)

/-- Hands a plain value over, wrapped in an object of its own. -/
def park (a : Arena) (v : Value) : Cell × Arena :=
  a.handOver (Object.wrapping (.parked a.next) v)

/-! ## Giving back -/

/-- Gives one reference back. The answer says whether the object left the arena. -/
def release (a : Arena) (h : Handle) : Except Failure (Bool × Arena) :=
  match a.byHandle.find? h with
  | none => .error (.invalidHandle h)
  | some slot =>
    match a.retention with
    | .keep => .ok (false, a)
    | .counted =>
      if 0 < slot.refs - 1 then
        .ok (false, { a with byHandle := a.byHandle.insert h { slot with refs := slot.refs - 1 } })
      else
        .ok (true,
          { a with
            byHandle := a.byHandle.erase h
            byIdentity := a.byIdentity.erase slot.object.identity })

/-- A handle that is not held cannot be given back. -/
theorem release_of_unknown {a : Arena} {h : Handle} (hs : a.byHandle.find? h = none) :
    a.release h = .error (.invalidHandle h) := by
  simp [release, hs]

/-- Where nothing ever goes, giving a reference back changes nothing. -/
theorem release_of_keep {a : Arena} {h : Handle} {s : Slot} (hs : a.byHandle.find? h = some s)
    (hr : a.retention = .keep) : a.release h = .ok (false, a) := by
  simp [release, hs, hr]

/-- Of several references one is given back, and the object stays. -/
theorem release_of_shared {a : Arena} {h : Handle} {s : Slot}
    (hs : a.byHandle.find? h = some s) (hr : a.retention = .counted) (hc : 1 < s.refs) :
    a.release h =
      .ok (false, { a with byHandle := a.byHandle.insert h { s with refs := s.refs - 1 } }) := by
  have : 0 < s.refs - 1 := by omega
  simp [release, hs, hr, this]

/-- With its last reference an object leaves both tables. -/
theorem release_of_last {a : Arena} {h : Handle} {s : Slot}
    (hs : a.byHandle.find? h = some s) (hr : a.retention = .counted) (hc : s.refs ≤ 1) :
    a.release h =
      .ok (true,
        { a with
          byHandle := a.byHandle.erase h
          byIdentity := a.byIdentity.erase s.object.identity }) := by
  have : ¬ 0 < s.refs - 1 := by omega
  simp [release, hs, hr, this]

end Arena

end CellMarshal
