import CellMarshal.Class.Definition
import CellMarshal.Registry.Basic

/-!
# Bound members

A `Binding` is a constructor, method or field of a class together with the converters that were
picked for its parameters and with the way in which its result becomes a cell. It is made for
arguments of certain kinds and can be used for any. Main statements: the equations of
`ResultPlan.ofType` for results that do not pass as they are (`ofType_of_open`,
`ofType_of_closed`).
-/

namespace CellMarshal

/-- How the result of a member becomes a cell. -/
inductive ResultPlan where
  /-- By a converter. -/
  | converted (k : Converter)
  /-- By the type that the result shows. -/
  | dynamic
  /-- As the cell or the reference that it is. -/
  | passThrough
  /-- As a reference to it. -/
  | boxing
  deriving DecidableEq, Repr

namespace ResultPlan

/-- The plan for results declared as `type`. -/
def ofType (r : Registry) (type : DeclType) : ResultPlan :=
  if type.isVoid || type.isCell || type.isHandle then passThrough
  else if type.isOpen then dynamic
  else
    match r.writer? type none with
    | some k => if k.form = .objectHandle then boxing else converted k
    | none => boxing

/-- A result that can be anything is written by the type that it shows. -/
theorem ofType_of_open (r : Registry) {type : DeclType}
    (h : (type.isVoid || type.isCell || type.isHandle) = false) (ho : type.isOpen = true) :
    ofType r type = dynamic := by
  simp only [ofType, h, ho, Bool.false_eq_true, if_false, if_true]

/-- A result of any other type is written by the converter for it, or boxed where that one follows
references or where there is none. -/
theorem ofType_of_closed (r : Registry) {type : DeclType}
    (h : (type.isVoid || type.isCell || type.isHandle) = false) (ho : type.isOpen = false) :
    ofType r type =
      match r.writer? type none with
      | some k => if k.form = .objectHandle then boxing else converted k
      | none => boxing := by
  simp only [ofType, h, ho, Bool.false_eq_true, if_false]

end ResultPlan

/-- A parameter that takes one argument, with the converter picked for it; none for an argument that
was missing when the binding was made. -/
structure ParamSlot where
  declared : DeclType
  converter : Option Converter
  deriving DecidableEq

/-- The array of a variadic member, with the converter for the further arguments together. -/
structure VarargSlot where
  arrayType : DeclType
  converter : Converter
  deriving DecidableEq

/-- What a binding runs. -/
inductive Target (σ : Type) where
  | member (m : Member σ)
  | field (f : Field σ)

/-- A bound member. -/
structure Binding (σ : Type) where
  cls : ClassDef σ
  target : Target σ
  takesReceiver : Bool
  params : List ParamSlot
  varargs : Option VarargSlot
  resultType : DeclType
  plan : ResultPlan
  /-- The priorities of the argument converters, added up in 32 bits. -/
  score : Int32
  registry : Registry
  /-- Whether a panic of the body is turned into a failure. -/
  guarded : Bool

variable {σ : Type}

namespace Binding

/-- How messages name the bound member. -/
def memberName (b : Binding σ) : String :=
  match b.target with
  | .member m => if m.name = b.cls.name then "new " ++ m.name else b.cls.name ++ "." ++ m.name
  | .field f => b.cls.name ++ "." ++ f.name

/-- The constructor or method that is bound. -/
def member? (b : Binding σ) : Option (Member σ) :=
  match b.target with
  | .member m => some m
  | .field _ => none

/-- The field that is bound. -/
def field? (b : Binding σ) : Option (Field σ) :=
  match b.target with
  | .member _ => none
  | .field f => some f

end Binding

end CellMarshal
