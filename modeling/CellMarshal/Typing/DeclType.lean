import CellMarshal.Typing.RawType

/-!
# Declared types

`DeclType` is the type a parameter, a result or a field is declared with: a plain class, an array of
some component, or a class with arguments. Every member states its types when its class is defined,
and converters for the elements of containers are picked from the arguments.

`DeclType.accepts` decides assignability with arguments left out of account, `DeclType.lineage`
lists the levels a converter is looked up at, and `DeclType.size` measures a type for recursion.
Main statements: `size_element_lt` and `size_mapTypes_lt` (the parts of a type are smaller),
`erased_erased`, and the equations of `accepts` (`accepts_array_array`, `accepts_array_of_raw`,
`accepts_raw_of_array`, `accepts_raw_raw`).
-/

namespace CellMarshal

/-- The declared type of a parameter, a result or a field. -/
inductive DeclType where
  | plain (raw : RawType)
  | array (component : DeclType)
  | generic (raw : RawType) (args : List DeclType)

namespace DeclType

/-! ## Equality -/

mutual

/-- Whether two declared types are the same. -/
def decEq : (a b : DeclType) → Decidable (a = b)
  | plain s, plain t => decidable_of_iff (s = t) (by simp)
  | array c, array d =>
    match decEq c d with
    | isTrue h => isTrue (by rw [h])
    | isFalse h => isFalse (by simpa using h)
  | generic s as, generic t bs =>
    match decEqArgs as bs with
    | isTrue h => decidable_of_iff (s = t) (by simp [h])
    | isFalse h => isFalse (by simp [h])
  | plain _, array _ => isFalse (by simp)
  | plain _, generic _ _ => isFalse (by simp)
  | array _, plain _ => isFalse (by simp)
  | array _, generic _ _ => isFalse (by simp)
  | generic _ _, plain _ => isFalse (by simp)
  | generic _ _, array _ => isFalse (by simp)

/-- Whether two lists of declared types are the same. -/
def decEqArgs : (as bs : List DeclType) → Decidable (as = bs)
  | [], [] => isTrue rfl
  | a :: as, b :: bs =>
    match decEq a b, decEqArgs as bs with
    | isTrue h, isTrue hs => isTrue (by rw [h, hs])
    | isFalse h, _ => isFalse (by simp [h])
    | _, isFalse hs => isFalse (by simp [hs])
  | [], _ :: _ => isFalse (by simp)
  | _ :: _, [] => isFalse (by simp)

end

/-- Declared types are compared part by part. -/
instance : DecidableEq DeclType := decEq

/-! ## Named types -/

/-- The declared type of what returns nothing. -/
def void : DeclType := plain .void

/-- The declared type that every value but a reference or a cell is looked up under in the end. -/
def object : DeclType := plain .object

/-- The class a type is of; none for an array. -/
def raw? : DeclType → Option RawType
  | plain t => some t
  | generic t _ => some t
  | array _ => none

/-- Arrays alone are of no class. -/
theorem raw?_eq_none_iff {t : DeclType} : t.raw? = none ↔ ∃ c, t = array c := by
  cases t <;> simp [raw?]

/-- Whether a type is of the given class. -/
def isOf (t : DeclType) (raw : RawType) : Bool :=
  t.raw? == some raw

/-- Whether a type stands for what returns nothing. -/
def isVoid (t : DeclType) : Bool := t.isOf .void

/-- Whether values of a type are cells, taken as they are. -/
def isCell (t : DeclType) : Bool := t.isOf .cell

/-- Whether values of a type are references, taken as they are. -/
def isHandle (t : DeclType) : Bool := t.isOf .handle

/-- Whether a type is of the class above all others. -/
def isObject (t : DeclType) : Bool := t.isOf .object

/-- Whether a type is a primitive one. -/
def isPrimitive (t : DeclType) : Bool :=
  t.raw?.any RawType.isPrimitive

/-- Whether a type is an array. -/
def isArray : DeclType → Bool
  | array _ => true
  | _ => false

/-- Whether values of a type are written as a grid: arrays and the container classes. -/
def isContainer (t : DeclType) : Bool :=
  match t.raw? with
  | none => true
  | some .list | some .set | some .collection | some .map => true
  | some _ => false

/-- Whether a type says nothing about how its values are written, so that the value itself has to be
looked at. -/
def isOpen (t : DeclType) : Bool :=
  match t.raw? with
  | some .object | some .number | some .collection => true
  | _ => false

/-! ## Parts of a type -/

/-- The type of the elements of an array, or of a sequence class with arguments. -/
def element? : DeclType → Option DeclType
  | array c => some c
  | generic .list args | generic .set args | generic .collection args => args.head?
  | _ => none

/-- The types of the keys and the values of a map with both arguments. -/
def mapTypes? : DeclType → Option (DeclType × DeclType)
  | generic .map [k, v] => some (k, v)
  | _ => none

mutual

/-- How many types a declared type is made of. -/
def size : DeclType → Nat
  | plain _ => 1
  | array c => size c + 1
  | generic _ args => sizeArgs args + 1

/-- How many types some arguments are made of. -/
def sizeArgs : List DeclType → Nat
  | [] => 0
  | a :: as => size a + sizeArgs as

end

/-- A type is made of one type at least. -/
theorem size_pos (t : DeclType) : 0 < t.size := by
  cases t <;> simp [size]

/-- A type is no larger than the arguments that it is one of. -/
theorem size_le_sizeArgs {a : DeclType} {as : List DeclType} (h : a ∈ as) :
    a.size ≤ sizeArgs as := by
  induction as with
  | nil => cases h
  | cons b as ih =>
    rw [sizeArgs]
    rcases List.mem_cons.1 h with rfl | h
    · omega
    · have := ih h
      omega

/-- Container types are not primitive. -/
theorem isPrimitive_of_isContainer {t : DeclType} (h : t.isContainer = true) :
    t.isPrimitive = false := by
  unfold isContainer at h
  unfold isPrimitive
  cases ht : t.raw? with
  | none => rfl
  | some s => cases s <;> simp_all [RawType.isPrimitive]

/-- A type of cells has the class of cells. -/
theorem raw?_of_isCell {t : DeclType} (h : t.isCell = true) : t.raw? = some .cell := by
  simpa [isCell, isOf] using h

/-- Primitive types are not types of cells. -/
theorem isCell_of_isPrimitive {t : DeclType} (h : t.isPrimitive = true) : t.isCell = false := by
  rw [Bool.eq_false_iff]
  intro hcell
  simp [isPrimitive, raw?_of_isCell hcell, RawType.isPrimitive] at h

/-- Container types are not types of cells. -/
theorem isCell_of_isContainer {t : DeclType} (h : t.isContainer = true) : t.isCell = false := by
  rw [Bool.eq_false_iff]
  intro hcell
  simp [isContainer, raw?_of_isCell hcell] at h

/-- The elements of an array are of its component. -/
theorem element?_array (c : DeclType) : (array c).element? = some c := rfl

/-- The type of the elements is smaller. -/
theorem size_element_lt {t e : DeclType} (h : t.element? = some e) : e.size < t.size := by
  unfold element? at h
  split at h
  case h_1 =>
    cases h
    simp [size]
  case h_5 => cases h
  all_goals
    have := size_le_sizeArgs (List.mem_of_mem_head? h)
    simp only [size]
    omega

/-- The types of keys and values are smaller. -/
theorem size_mapTypes_lt {t k v : DeclType} (h : t.mapTypes? = some (k, v)) :
    k.size < t.size ∧ v.size < t.size := by
  unfold mapTypes? at h
  split at h
  · cases h
    simp only [size, sizeArgs]
    have hk := size_pos k
    have hv := size_pos v
    omega
  · cases h

/-! ## Lineage -/

/-- A type without its arguments, the components of arrays included. -/
def erased : DeclType → DeclType
  | plain t => plain t
  | generic t _ => plain t
  | array c => array (erased c)

/-- Arguments that are left off once are left off. -/
@[simp] theorem erased_erased (t : DeclType) : t.erased.erased = t.erased := by
  induction t using erased.induct with
  | case1 => rfl
  | case2 => rfl
  | case3 c ih => simp [erased, ih]

/-- Arguments do not concern the class of a type. -/
@[simp] theorem raw?_erased (t : DeclType) : t.erased.raw? = t.raw? := by
  cases t <;> rfl

/-- The levels a value of a type is looked up at, most specific first. -/
def lineage : DeclType → List DeclType
  | array c => [(array c).erased, object]
  | plain t => t.lineage.map plain
  | generic t _ => t.lineage.map plain

/-! ## Assignability -/

/-- Whether a slot declared as `target` may hold a value of type `source`. Arguments play no part.
Arrays of primitives fit only arrays of the same primitive. -/
def accepts : (target source : DeclType) → Bool
  | array t, array s =>
    if t.isPrimitive || s.isPrimitive then t == s else accepts t s
  | array _, _ => false
  | target, array _ => target.isObject
  | target, source =>
    match target.raw?, source.raw? with
    | some t, some s => t.accepts s
    | _, _ => false

/-- Arrays take arrays whose elements their component takes, and arrays of primitives only those of
the same primitive. -/
theorem accepts_array_array (t s : DeclType) :
    (array t).accepts (array s) =
      if t.isPrimitive || s.isPrimitive then t == s else t.accepts s := by
  rw [accepts]

/-- Arrays take nothing but arrays. -/
theorem accepts_array_of_raw {t source : DeclType} {s : RawType} (h : source.raw? = some s) :
    (array t).accepts source = false := by
  cases source with
  | array c => cases h
  | _ => rw [accepts]; simp

/-- Of the types with a class only the one that any object fits takes arrays. -/
theorem accepts_raw_of_array {target c : DeclType} {t : RawType} (h : target.raw? = some t) :
    target.accepts (array c) = target.isObject := by
  cases target with
  | array c => cases h
  | _ => rw [accepts]; simp

/-- Types with classes take one another as their classes do. -/
theorem accepts_raw_raw {target source : DeclType} {t s : RawType} (ht : target.raw? = some t)
    (hs : source.raw? = some s) : target.accepts source = t.accepts s := by
  cases target <;> cases source <;> simp_all [accepts, raw?]

/-! ## Specificity -/

/-- How specific a class is: what takes every value least, what takes several classes next. -/
def rawSpecificity : RawType → Nat
  | .object | .cell | .void => 0
  | .number | .collection | .handle => 1
  | _ => 2

mutual

/-- How specific a type is, for choosing among members that fit a call equally well. This sum is
exact, and one without sign in 32 bits agrees with it as long as it fits: every part of a type adds
at most `2`, so it does for types of fewer than `2 ^ 31` parts. -/
def specificity : DeclType → Nat
  | plain t => rawSpecificity t
  | array c => 2 + specificity c
  | generic t args => rawSpecificity t + specificityArgs args

/-- The specificities of some types together, which a sum in 32 bits agrees with as long as it fits.
-/
def specificityArgs : List DeclType → Nat
  | [] => 0
  | a :: as => specificity a + specificityArgs as

end

/-! ## Text -/

mutual

/-- A type as it stands in a signature. -/
def display : DeclType → String
  | plain t => t.name
  | array c => display c ++ "[]"
  | generic t args => t.name ++ "<" ++ String.intercalate ", " (displayArgs args) ++ ">"

/-- Some types as they stand in a signature. -/
def displayArgs : List DeclType → List String
  | [] => []
  | a :: as => display a :: displayArgs as

end

example : (generic .map [plain .string, array (plain (.primitive .double))]).display =
    "Map<String, double[]>" := by decide +kernel

end DeclType

end CellMarshal
