import CellMarshal.Calendar
import CellMarshal.Cell.Basic
import CellMarshal.Typing.DeclType

/-!
# Values

A `Value` is what members of classes take and give back: plain values of the primitive types, texts,
dates, containers, references and cells taken as they are, and objects. An object is known by its
identity alone; what it is made of stays with the members of its class, except that an object may
wrap a plain value so that it can be handed to a host. Main statements: `parts_sizeOf` (the
immediate parts of a value are smaller) and `induction`, the induction over parts that it gives.
-/

namespace CellMarshal

/-! ## Objects -/

/-- What tells one object from another: the number that its maker gave it, or, for a plain value
that was wrapped on its way to a host, the handle that it was first parked under. -/
inductive Identity where
  | made (number : Nat)
  | parked (handle : Handle)
  deriving DecidableEq, Repr

/-- The class that an object carries: its name, then the names of its supertypes, most specific
first. -/
structure ClassId where
  name : String
  supertypes : List String := []
  deriving DecidableEq, Repr

/-- Whether objects of the class are instances of the class named. Everything is an `Object`. -/
def ClassId.isInstanceOf (c : ClassId) (name : String) : Bool :=
  name == "Object" || c.name == name || c.supertypes.contains name

/-- An object over the values `α` that it may wrap. -/
structure ObjectOver (α : Type) where
  identity : Identity
  classId : ClassId
  content : Option α

/-! ## Values -/

/-- What members of classes take and give back. -/
inductive Value where
  | null
  | boolean (b : Bool)
  | byte (n : Int8)
  | short (n : Int16)
  | int (n : Int32)
  | long (n : Int64)
  | float (x : Float32)
  | double (x : Float)
  | char (c : Char)
  | string (s : String)
  | date (d : Date)
  | dateTime (t : DateTime)
  | list (items : List Value)
  /-- The elements in the order in which they came, meant to be without duplicates. -/
  | set (items : List Value)
  /-- The entries in the order in which they came. -/
  | map (entries : List (Value × Value))
  | array (items : List Value)
  | handle (handle : Handle) (tag : String)
  | cell (c : Cell)
  | object (o : ObjectOver Value)

/-- An object that may wrap a value. -/
abbrev Object := ObjectOver Value

namespace Value

/-- The values a value is immediately made of. -/
def parts : Value → List Value
  | list items | set items | array items => items
  | map entries => entries.flatMap fun e => [e.1, e.2]
  | object o => o.content.toList
  | _ => []

/-- The parts of a value are smaller. -/
theorem parts_sizeOf {v p : Value} (h : p ∈ v.parts) : sizeOf p < sizeOf v := by
  unfold parts at h
  split at h
  case h_4 entries =>
    obtain ⟨⟨k, w⟩, he, hp⟩ := List.mem_flatMap.1 h
    have := List.sizeOf_lt_of_mem he
    simp only [Prod.mk.sizeOf_spec] at this
    simp only [map.sizeOf_spec]
    simp only [List.mem_cons, List.not_mem_nil, or_false] at hp
    rcases hp with rfl | rfl <;> omega
  case h_5 o =>
    obtain ⟨id, c, content⟩ := o
    cases content with
    | none => simp at h
    | some w =>
      simp only [Option.toList_some, List.mem_singleton] at h
      subst h
      simp only [object.sizeOf_spec, ObjectOver.mk.sizeOf_spec, Option.some.sizeOf_spec]
      omega
  case h_6 => simp at h
  all_goals
    have := List.sizeOf_lt_of_mem h
    simp only [list.sizeOf_spec, set.sizeOf_spec, array.sizeOf_spec]
    omega

/-- What holds of a value whenever it holds of its parts holds of every value. -/
theorem induction {P : Value → Prop} (step : ∀ v, (∀ p ∈ v.parts, P p) → P v) (v : Value) : P v :=
  step v fun p _ => induction step p
termination_by sizeOf v
decreasing_by exact parts_sizeOf ‹_›

/-! ## Reading a value -/

/-- Whether there is no value. -/
def isNull : Value → Bool
  | null => true
  | _ => false

/-- The test for no value finds it and nothing else. -/
@[simp] theorem isNull_iff {v : Value} : v.isNull = true ↔ v = null := by
  cases v <;> simp [isNull]

/-- The primitive type of a plain value. -/
def primitive? : Value → Option Primitive
  | boolean _ => some .boolean
  | byte _ => some .byte
  | short _ => some .short
  | int _ => some .int
  | long _ => some .long
  | float _ => some .float
  | double _ => some .double
  | char _ => some .char
  | _ => none

/-- A number as a double. -/
def asNumber? : Value → Option Float
  | byte n => some (Float.ofInt n.toInt)
  | short n => some (Float.ofInt n.toInt)
  | int n => some (Float.ofInt n.toInt)
  | long n => some (Float.ofInt n.toInt)
  | float x => some x.toFloat
  | double x => some x
  | _ => none

/-- Whether a value is a container that is written as a grid. -/
def isNested : Value → Bool
  | list _ | set _ | array _ | map _ => true
  | _ => false

end Value

end CellMarshal
