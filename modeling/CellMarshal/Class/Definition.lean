import CellMarshal.Class.Member

/-!
# Classes

A class definition is a class identity with constructors, methods and fields. A `ClassDraft`
collects them, and `ClassDraft.build` checks them: a variadic member ends with an array, no
parameter is declared void, and no two fields share a name. Main statements: `of_build` (a class
consists of what was drafted) and `memberFault?_of_build` (none of its members has a fault).
-/

namespace CellMarshal

/-- A class that can be called. -/
structure ClassDef (σ : Type) where
  classId : ClassId
  constructors : List (Member σ)
  methods : List (Member σ)
  fields : List (Field σ)

variable {σ : Type}

namespace ClassDef

/-- The name of a class. -/
def name (c : ClassDef σ) : String :=
  c.classId.name

/-- The methods of a name, in the order of their definition. -/
def methodsNamed (c : ClassDef σ) (name : String) : List (Member σ) :=
  c.methods.filter fun m => m.name == name

/-- The field of a name. -/
def field? (c : ClassDef σ) (name : String) : Option (Field σ) :=
  c.fields.find? fun f => f.name == name

end ClassDef

/-- A class while its members are being collected. -/
structure ClassDraft (σ : Type) where
  name : String
  superclass : Option String := none
  interfaces : List String := []
  constructors : List (Member σ) := []
  methods : List (Member σ) := []
  fields : List (Field σ) := []

namespace ClassDraft

/-- The class with a superclass. -/
def extending (d : ClassDraft σ) (name : String) : ClassDraft σ :=
  { d with superclass := some name }

/-- The class with one more interface. -/
def implementing (d : ClassDraft σ) (name : String) : ClassDraft σ :=
  { d with interfaces := d.interfaces ++ [name] }

/-- The identity that objects of the class carry. -/
def classId (d : ClassDraft σ) : ClassId :=
  { name := d.name, supertypes := d.superclass.toList ++ d.interfaces }

/-- Adds a member that is specified in full. One that has the name of the class is a constructor,
and constructors take no receiver. -/
def member (d : ClassDraft σ) (m : Member σ) : ClassDraft σ :=
  if m.name = d.name then
    { d with constructors := d.constructors ++ [{ m with isStatic := true }] }
  else { d with methods := d.methods ++ [m] }

/-- Adds a constructor, whose body sees no receiver. -/
def constructor (d : ClassDraft σ) (params : List DeclType)
    (body : List Value → StateM σ Outcome) : ClassDraft σ :=
  let m : Member σ :=
    { name := d.name
      params := params
      result := .plain (.named d.name)
      isStatic := true
      body := fun _ args => body args }
  { d with constructors := d.constructors ++ [m] }

/-- Adds a method, whose body always sees a receiver. -/
def method (d : ClassDraft σ) (name : String) (params : List DeclType) (result : DeclType)
    (body : Object → List Value → StateM σ Outcome) : ClassDraft σ :=
  let m : Member σ :=
    { name := name
      params := params
      result := result
      body := fun receiver args =>
        match receiver with
        | some o => body o args
        | none => pure (.failed (.message "instance method called without a receiver")) }
  { d with methods := d.methods ++ [m] }

/-- Adds a method without receiver. -/
def staticMethod (d : ClassDraft σ) (name : String) (params : List DeclType) (result : DeclType)
    (body : List Value → StateM σ Outcome) : ClassDraft σ :=
  let m : Member σ :=
    { name := name
      params := params
      result := result
      isStatic := true
      body := fun _ args => body args }
  { d with methods := d.methods ++ [m] }

/-- Adds a field. -/
def field (d : ClassDraft σ) (f : Field σ) : ClassDraft σ :=
  { d with fields := d.fields ++ [f] }

/-! ## Checks -/

/-- What is wrong with the parameters of a member. -/
def memberFault? (m : Member σ) : Option String :=
  if m.isVariadic && !m.params.getLast?.any DeclType.isArray then
    some "variadic member must end with an array parameter"
  else if m.params.any DeclType.isVoid then some "parameter declared void"
  else none

/-- The first name that repeats an earlier one. -/
def repeated? (seen : List String) : List String → Option String
  | [] => none
  | n :: ns => if seen.contains n then some n else repeated? (n :: seen) ns

/-- The first fault of a class: of its constructors, then of its methods, then of its fields. -/
def fault? (d : ClassDraft σ) : Option Failure :=
  let ofMember (m : Member σ) : Option Failure :=
    (memberFault? m).map (.invalidMember d.name m.name)
  ((d.constructors ++ d.methods).findSome? ofMember).or
    ((repeated? [] (d.fields.map Field.name)).map fun n =>
      .invalidMember d.name n "duplicate field")

/-- The class that was drafted, provided that it has no fault. -/
def build (d : ClassDraft σ) : Except Failure (ClassDef σ) :=
  match d.fault? with
  | some f => .error f
  | none =>
    .ok
      { classId := d.classId
        constructors := d.constructors
        methods := d.methods
        fields := d.fields }

/-- A class that was built consists of what was drafted. -/
theorem of_build {d : ClassDraft σ} {c : ClassDef σ} (h : d.build = .ok c) :
    d.fault? = none ∧ c.classId = d.classId ∧ c.constructors = d.constructors ∧
      c.methods = d.methods ∧ c.fields = d.fields := by
  unfold build at h
  split at h
  · cases h
  · cases h
    exact ⟨‹_›, rfl, rfl, rfl, rfl⟩

/-- No member of a class that was built has a fault. -/
theorem memberFault?_of_build {d : ClassDraft σ} {c : ClassDef σ} (h : d.build = .ok c)
    {m : Member σ} (hm : m ∈ c.constructors ++ c.methods) : memberFault? m = none := by
  obtain ⟨hf, -, hc, hs, -⟩ := of_build h
  rw [hc, hs] at hm
  unfold fault? at hf
  simp only [Option.or_eq_none_iff] at hf
  have := (List.findSome?_eq_none_iff.1 hf.1) m hm
  simpa using this

end ClassDraft

end CellMarshal
