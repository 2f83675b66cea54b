/-!
# Classes without their arguments

`RawType` is the class of a declared type with its arguments left off: the primitive types, their
boxes, the built-in classes, and classes known by name. `RawType.lineage` lists a class with its
supertypes, most specific first, and `RawType.accepts` decides whether a slot of one class may hold
a value of another. Main statements: `accepts_primitive_iff`, `accepts_iff_mem_lineage`,
`mem_lineage_self`.
-/

namespace CellMarshal

/-! ## Primitive types -/

/-- The primitive types. -/
inductive Primitive where
  | boolean
  | byte
  | short
  | int
  | long
  | float
  | double
  | char
  deriving DecidableEq, Repr

namespace Primitive

/-- The name of a primitive type. -/
def name : Primitive → String
  | boolean => "boolean"
  | byte => "byte"
  | short => "short"
  | int => "int"
  | long => "long"
  | float => "float"
  | double => "double"
  | char => "char"

/-- The name of the class that boxes a primitive type. -/
def boxName : Primitive → String
  | boolean => "Boolean"
  | byte => "Byte"
  | short => "Short"
  | int => "Integer"
  | long => "Long"
  | float => "Float"
  | double => "Double"
  | char => "Character"

/-- Whether values of the type are numbers. -/
def isNumeric : Primitive → Bool
  | boolean | char => false
  | byte | short | int | long | float | double => true

end Primitive

/-! ## Classes -/

/-- A class with its arguments left off. -/
inductive RawType where
  | void
  | primitive (p : Primitive)
  | boxed (p : Primitive)
  /-- The common supertype of the boxes of the numeric types. -/
  | number
  | string
  | date
  | dateTime
  | collection
  | list
  | set
  | map
  /-- The class of which every other is a subtype. -/
  | object
  /-- References to objects, taken as they are. -/
  | handle
  /-- Cells, taken as they are. -/
  | cell
  /-- A class known by its name alone, different from the built-in ones whatever the name. -/
  | named (name : String)
  deriving DecidableEq, Repr

namespace RawType

/-- The name of a class. -/
def name : RawType → String
  | void => "void"
  | primitive p => p.name
  | boxed p => p.boxName
  | number => "Number"
  | string => "String"
  | date => "Date"
  | dateTime => "DateTime"
  | collection => "Collection"
  | list => "List"
  | set => "Set"
  | map => "Map"
  | object => "Object"
  | handle => "ObjectHandle"
  | cell => "WireValue"
  | named n => n

/-- Whether the class is a primitive type. -/
def isPrimitive : RawType → Bool
  | primitive _ => true
  | _ => false

/-- The box of a primitive type; any other class is unchanged. -/
def box : RawType → RawType
  | primitive p => boxed p
  | t => t

/-- The box of a primitive type with its supertypes. -/
def boxLineage (p : Primitive) : List RawType :=
  if p.isNumeric then [boxed p, number, object] else [boxed p, object]

/-- A class followed by its supertypes, most specific first. -/
def lineage : RawType → List RawType
  | void => [void]
  | object => [object]
  | primitive p => primitive p :: boxLineage p
  | boxed p => boxLineage p
  | list => [list, collection, object]
  | set => [set, collection, object]
  | t => [t, object]

/-- A class is on its own lineage. -/
theorem mem_lineage_self (t : RawType) : t ∈ t.lineage := by
  cases t with
  | boxed p => cases p <;> decide
  | _ => simp [lineage]

/-- The object class ends every lineage but that of no value at all. -/
theorem object_mem_lineage {t : RawType} (h : t ≠ void) : object ∈ t.lineage := by
  cases t with
  | void => exact absurd rfl h
  | boxed p => cases p <;> decide
  | primitive p => cases p <;> decide
  | _ => simp [lineage]

/-- Whether a slot of class `target` may hold a value of class `source`. A primitive slot takes its
own type and its box, and no slot takes part in what returns nothing. -/
def accepts (target source : RawType) : Bool :=
  match target with
  | primitive p => source == primitive p || source == boxed p
  | void => false
  | t => source.lineage.contains t

/-- A primitive type takes its own values and those of its box. -/
theorem accepts_primitive_iff {p : Primitive} {source : RawType} :
    (primitive p).accepts source = true ↔ source = primitive p ∨ source = boxed p := by
  simp [accepts]

/-- Any other slot takes the classes of which its own is a supertype. -/
theorem accepts_iff_mem_lineage {target source : RawType} (hp : target.isPrimitive = false)
    (hv : target ≠ void) : target.accepts source = true ↔ target ∈ source.lineage := by
  cases target <;> simp_all [accepts, isPrimitive]

end RawType

end CellMarshal
