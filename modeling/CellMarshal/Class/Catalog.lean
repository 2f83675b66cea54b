import CellMarshal.Class.Definition
import CellMarshal.Table

/-!
# The catalog

Classes under their names, where a host finds them. Main statements: `get_register_self`,
`get_register_of_ne`, `register_of_known` and `get_remove_self`.
-/

namespace CellMarshal

/-- Classes by name. -/
structure Catalog (σ : Type) where
  classes : Table String (ClassDef σ) := {}

variable {σ : Type}

namespace Catalog

/-- The class of a name. -/
def get? (k : Catalog σ) (name : String) : Option (ClassDef σ) :=
  k.classes.find? name

/-- The class of a name, which has to be registered. -/
def get (k : Catalog σ) (name : String) : Except Failure (ClassDef σ) :=
  match k.get? name with
  | some c => .ok c
  | none => .error (.unknownClass name)

/-- Registers a class under its name, which has to be free. -/
def register (k : Catalog σ) (c : ClassDef σ) : Except Failure (Catalog σ) :=
  match k.get? c.name with
  | some _ => .error (.duplicateClass c.name)
  | none => .ok { classes := k.classes.insert c.name c }

/-- The catalog without a name. -/
def remove (k : Catalog σ) (name : String) : Catalog σ :=
  { classes := k.classes.erase name }

/-- Whether a name is registered. -/
def contains (k : Catalog σ) (name : String) : Bool :=
  k.classes.contains name

/-- The number of classes. -/
def size (k : Catalog σ) : Nat :=
  k.classes.size

/-- The names in the order of their code points. -/
def names (k : Catalog σ) : List String :=
  k.classes.keys.mergeSort fun a b => !decide (b < a)

/-- A name that is taken cannot be registered again. -/
theorem register_of_known {k : Catalog σ} {c d : ClassDef σ} (h : k.get? c.name = some d) :
    k.register c = .error (.duplicateClass c.name) := by
  simp [register, h]

/-- A class is found under its name once it is registered. -/
theorem get_register_self {k k' : Catalog σ} {c : ClassDef σ} (h : k.register c = .ok k') :
    k'.get c.name = .ok c := by
  unfold register at h
  split at h
  · cases h
  · cases h
    simp [get, get?]

/-- Registering a class leaves all other names as they were. -/
theorem get_register_of_ne {k k' : Catalog σ} {c : ClassDef σ} {name : String}
    (h : k.register c = .ok k') (hn : name ≠ c.name) : k'.get name = k.get name := by
  unfold register at h
  split at h
  · cases h
  · cases h
    simp [get, get?, Table.find?_insert_of_ne _ _ hn]

/-- A name that was removed is unknown. -/
theorem get_remove_self (k : Catalog σ) (name : String) :
    (k.remove name).get name = .error (.unknownClass name) := by
  simp [get, get?, remove]

end Catalog

end CellMarshal
