import CellMarshal.Class.Member
import CellMarshal.Table
import CellMarshal.Value.Equality
import CellMarshal.Value.Instance

/-!
# Scripted members

A small language for the bodies of members, for classes that are given as data. Its world numbers
the objects that it makes and keeps a list of values for each object with state; everything else
about an object is the object itself. Marshalling takes any function as a body and does not depend
on this language.
-/

namespace CellMarshal.Script

/-! ## The world -/

/-- The number of the next object, and the values that objects with state hold. -/
structure World where
  next : Nat := 0
  contents : Table Nat (List Value) := {}

namespace World

/-- A new object with state. -/
def make (w : World) (classId : ClassId) (items : List Value) : Object × World :=
  ({ identity := .made w.next, classId := classId, content := none },
    { next := w.next + 1, contents := w.contents.insert w.next items })

/-- A new object that wraps a value. -/
def wrap (w : World) (v : Value) : Object × World :=
  (Object.wrapping (.made w.next) v, { w with next := w.next + 1 })

/-- The values that an object holds, where it has state. -/
def items? (w : World) (o : Object) : Option (List Value) :=
  match o.identity with
  | .made n => w.contents.find? n
  | .parked _ => none

/-- The world with more values in an object that has state. -/
def append (w : World) (o : Object) (items : List Value) : World :=
  match o.identity with
  | .made n => { w with contents := w.contents.modify n (· ++ items) }
  | .parked _ => w

end World

/-! ## Scripts -/

/-- The container that arguments are collected in. -/
inductive Collection where
  | list
  | set
  | array
  deriving DecidableEq, Repr

/-- The arguments in a container. -/
def Collection.collect : Collection → List Value → Value
  | list, args => .list args
  | set, args => .setOf args
  | array, args => .array args

/-- A body given as data. -/
inductive Code where
  /-- A fixed value. -/
  | constant (v : Value)
  /-- One of the arguments. -/
  | argument (index : Nat)
  /-- All arguments in a container. -/
  | collect (shape : Collection)
  /-- The names of the types that the arguments show. -/
  | typeNames
  /-- The receiver. -/
  | receiver
  /-- A new object that holds the arguments. -/
  | make
  /-- One of the values that the receiver holds. -/
  | item (index : Nat)
  /-- Adds the arguments to what the receiver holds, and tells how many values that are. -/
  | push
  /-- The sum of the numbers in the arguments. -/
  | sum
  /-- The quotient of the first two arguments. -/
  | quotient
  | fail (text : String)
  /-- A division by zero behind some further causes. -/
  | divisionByZero (wrappers : Nat)
  | panic (payload : Option String)

/-- A division by zero behind some further causes, each of which names the one that it wraps. -/
def wrapped : Nat → Cause
  | 0 => .divisionByZero
  | n + 1 => .because ("wrapped: " ++ (wrapped n).text) (wrapped n)

mutual

/-- A sum with the numbers in a value added, from the first to the last. -/
def addNumbers (total : Float) : Value → Float
  | .list items | .set items | .array items => addAll total items
  | v => total + v.asNumber?.getD 0

/-- A sum with the numbers in some values added. -/
def addAll (total : Float) : List Value → Float
  | [] => total
  | v :: vs => addAll (addNumbers total v) vs

end

/-- The quotient of two numbers. -/
def divide (args : List Value) : Outcome :=
  match (args[0]?).bind Value.asNumber?, (args[1]?).bind Value.asNumber? with
  | some x, some y => if y == 0 then .failed .divisionByZero else .value (.double (x / y))
  | _, _ => .failed (.message "two numbers required")

/-- What needs the values that a receiver with state holds. -/
def withItems (receiver : Option Object) (f : Object → List Value → StateM World Outcome) :
    StateM World Outcome := do
  match receiver with
  | none => pure (.failed (.message "no receiver"))
  | some o =>
    match (← get).items? o with
    | none => pure (.failed (.message "not a stateful object"))
    | some items => f o items

/-- Runs a script as a member of a class. -/
def Code.run (classId : ClassId) (code : Code) : Body World := fun receiver args =>
  match code with
  | .constant v => pure (.value v)
  | .argument i =>
    match args[i]? with
    | some v => pure (.value v)
    | none => pure (.failed (.message ("no argument " ++ toString i)))
  | .collect shape => pure (.value (shape.collect args))
  | .typeNames => pure (.value (.string (String.intercalate "; " (args.map Value.typeName))))
  | .receiver =>
    match receiver with
    | some o => pure (.value (.object o))
    | none => pure (.failed (.message "no receiver"))
  | .make => modifyGet fun w =>
    let (o, w) := w.make classId args
    (.value (.object o), w)
  | .item i => withItems receiver fun _ items =>
    match items[i]? with
    | some v => pure (.value v)
    | none => pure (.failed (.message ("no state " ++ toString i)))
  | .push => withItems receiver fun o items => do
    modify fun w => w.append o args
    pure (.value (.int (Int32.ofNat (items.length + args.length))))
  | .sum => pure (.value (.double (addAll 0 args)))
  | .quotient => pure (divide args)
  | .fail text => pure (.failed (.message text))
  | .divisionByZero wrappers => pure (.failed (wrapped wrappers))
  | .panic payload => pure (.panicked payload)

end CellMarshal.Script
