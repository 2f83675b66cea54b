import CellMarshal.Failure
import CellMarshal.Value.Basic

/-!
# Members of classes

A member is a constructor or a method: declared parameter and result types, and a body that takes a
receiver, where there is one, and values. Bodies run in a world of their own, the type `σ`; what
they do to it stays done whether they give a value, fail, or panic. A field is read in the same way.
Main statements: `fixedParams_of_fixed`, `fixedParams_append_vararg` (the parameters of a variadic
member are its fixed ones and its array).
-/

namespace CellMarshal

/-- What running a body comes to. A panic carries a text, or a payload that is none. -/
inductive Outcome where
  | value (v : Value)
  | failed (cause : Cause)
  | panicked (payload : Option String)

/-- The code of a constructor or method. -/
abbrev Body (σ : Type) := Option Object → List Value → StateM σ Outcome

/-- A constructor or method. -/
structure Member (σ : Type) where
  name : String
  params : List DeclType
  result : DeclType
  /-- Whether the member takes no receiver. -/
  isStatic : Bool := false
  /-- Whether the last parameter is an array that takes up all further arguments. -/
  isVariadic : Bool := false
  body : Body σ

/-- A field of a class. -/
structure Field (σ : Type) where
  name : String
  type : DeclType
  isStatic : Bool
  get : Option Object → StateM σ Outcome

variable {σ : Type}

namespace Member

/-- The parameters that take one argument each. -/
def fixedParams (m : Member σ) : List DeclType :=
  if m.isVariadic then m.params.dropLast else m.params

/-- The declared array type of the further arguments. -/
def vararg? (m : Member σ) : Option DeclType :=
  if m.isVariadic then m.params.getLast? else none

/-- A member of fixed arity has its parameters for fixed ones. -/
theorem fixedParams_of_fixed {m : Member σ} (h : m.isVariadic = false) :
    m.fixedParams = m.params := by
  simp [fixedParams, h]

/-- A member of fixed arity has no variadic array. -/
theorem vararg?_of_fixed {m : Member σ} (h : m.isVariadic = false) : m.vararg? = none := by
  simp [vararg?, h]

/-- The parameters of a variadic member are its fixed ones and its array. -/
theorem fixedParams_append_vararg {m : Member σ} {t : DeclType} (h : m.vararg? = some t) :
    m.fixedParams ++ [t] = m.params := by
  unfold vararg? at h
  split at h
  · rename_i hv
    rw [fixedParams, if_pos hv]
    obtain ⟨ys, hy⟩ := List.getLast?_eq_some_iff.1 h
    simp [hy]
  · cases h

/-- What takes one argument or all further ones is a parameter. -/
theorem mem_params_of_mem_fixedParams {m : Member σ} {t : DeclType} (h : t ∈ m.fixedParams) :
    t ∈ m.params := by
  unfold fixedParams at h
  split at h
  · exact (List.dropLast_sublist m.params).subset h
  · exact h

/-- The variadic array is one of the parameters. -/
theorem mem_params_of_vararg? {m : Member σ} {t : DeclType} (h : m.vararg? = some t) :
    t ∈ m.params := by
  rw [← fixedParams_append_vararg h]
  exact List.mem_append_right _ List.mem_cons_self

/-- Parameters as they stand in a signature; the array of a variadic member shows its component. -/
def paramWords (isVariadic : Bool) : List DeclType → List String
  | [] => []
  | [.array c] => [if isVariadic then c.display ++ "..." else (DeclType.array c).display]
  | t :: ts => t.display :: paramWords isVariadic ts

/-- The name and the parameters of a member. -/
def signature (m : Member σ) : String :=
  m.name ++ "(" ++ String.intercalate ", " (paramWords m.isVariadic m.params) ++ ")"

end Member

namespace Field

/-- A field that is read from a receiver. -/
def ofReceiver (name : String) (type : DeclType) (get : Object → StateM σ Outcome) : Field σ :=
  { name := name
    type := type
    isStatic := false
    get := fun receiver =>
      match receiver with
      | some o => get o
      | none => pure (.failed (.message "instance field read without a receiver")) }

/-- A field that needs no receiver and always has one value. -/
def constant (name : String) (type : DeclType) (v : Value) : Field σ :=
  { name := name, type := type, isStatic := true, get := fun _ => pure (.value v) }

end Field

end CellMarshal
