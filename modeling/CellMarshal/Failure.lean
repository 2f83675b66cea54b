import CellMarshal.Cell.Grid

/-!
# Failures

Everything that can go wrong between a host and the objects, as causes. `Failure.message` words a
failure, `Failure.kind` sorts it for mapping to an error code, and `Failure.isData` tells failures
of the caller's data from defects of the set-up. A member of a class fails with a `Cause`, which may
name a further cause; `Failure.isDivisionByZero` follows that chain.
-/

namespace CellMarshal

/-! ## Causes -/

/-- Why a member of a class failed. -/
inductive Cause where
  | divisionByZero
  | message (text : String)
  | because (text : String) (source : Cause)
  deriving DecidableEq, Repr

namespace Cause

/-- The wording of a cause; what lies behind it is not repeated. -/
def text : Cause → String
  | divisionByZero => "division by zero"
  | message t => t
  | because t _ => t

/-- Whether a division by zero lies behind a cause. -/
def involvesDivision : Cause → Bool
  | divisionByZero => true
  | message _ => false
  | because _ source => source.involvesDivision

end Cause

/-! ## Failures -/

/-- Why an operation failed. -/
inductive Failure where
  /-- A null value or a missing cell where there has to be one. -/
  | nullArgument (context : String)
  /-- A value or cell of the wrong form. -/
  | typeMismatch (expected found : String)
  /-- No converter joins a type and a kind of cell. -/
  | noConverter (type cell : String)
  /-- No member of a name takes arguments of these kinds. -/
  | noOverload (cls member : String) (kinds : List CellKind)
  /-- A handle that names no object. -/
  | invalidHandle (handle : Handle)
  /-- A member that ran and failed. -/
  | invocation (member : String) (cause : Cause)
  /-- A number of arguments, or a receiver, that does not fit the bound member. -/
  | resolution (reason : String)
  /-- A second converter for a type and a kind at one priority. -/
  | duplicateConverter (type : String) (cell : CellKind) (priority : Int32)
  /-- A converter for a kind of cell that it cannot map. -/
  | invalidConverter (reason : String)
  /-- A member whose definition is not well formed. -/
  | invalidMember (cls member reason : String)
  /-- A name that no class is registered under. -/
  | unknownClass (name : String)
  /-- A name that a class is registered under already. -/
  | duplicateClass (name : String)
  /-- Rows that are not a grid. -/
  | shape (fault : ShapeFault)
  deriving DecidableEq, Repr

/-- What sort of failure it is. -/
inductive FailureKind where
  | nullArgument
  | typeMismatch
  | noConverter
  | noOverload
  | invalidHandle
  | invocation
  | resolution
  | configuration
  deriving DecidableEq, Repr

namespace Failure

/-- The sort of a failure. -/
def kind : Failure → FailureKind
  | nullArgument _ => .nullArgument
  | typeMismatch _ _ | shape _ => .typeMismatch
  | noConverter _ _ => .noConverter
  | noOverload _ _ _ => .noOverload
  | invalidHandle _ => .invalidHandle
  | invocation _ _ => .invocation
  | resolution _ => .resolution
  | duplicateConverter _ _ _ | invalidConverter _ | invalidMember _ _ _ | unknownClass _
  | duplicateClass _ => .configuration

/-- Kinds of cells, divided by commas. -/
def kindWords (kinds : List CellKind) : String :=
  String.intercalate ", " (kinds.map CellKind.word)

/-- The wording of a failure. -/
def message : Failure → String
  | nullArgument context => "null argument: " ++ context
  | typeMismatch expected found => "type mismatch: expected " ++ expected ++ ", found " ++ found
  | noConverter type cell => "no converter between " ++ type ++ " and " ++ cell
  | noOverload cls member kinds =>
    "no overload of " ++ cls ++ "." ++ member ++ " accepts (" ++ kindWords kinds ++ ")"
  | invalidHandle handle => "invalid object handle " ++ toString handle
  | invocation member cause => member ++ " failed: " ++ cause.text
  | resolution reason => "resolution error: " ++ reason
  | duplicateConverter type cell priority =>
    "converter for (" ++ type ++ ", " ++ cell.word ++ ") at priority " ++ toString priority.toInt ++
      " is already registered"
  | invalidConverter reason => "invalid converter: " ++ reason
  | invalidMember cls member reason =>
    "invalid member " ++ cls ++ "." ++ member ++ ": " ++ reason
  | unknownClass name => "unknown class '" ++ name ++ "'"
  | duplicateClass name => "class '" ++ name ++ "' is already registered"
  | shape fault => fault.message

/-- Whether the caller's data is at fault. -/
def isData (f : Failure) : Bool :=
  f.kind = .nullArgument || f.kind = .typeMismatch

/-- Whether a member failed because of a division by zero, at whatever remove. -/
def isDivisionByZero : Failure → Bool
  | invocation _ cause => cause.involvesDivision
  | _ => false

end Failure

end CellMarshal
