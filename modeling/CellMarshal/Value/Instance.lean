import CellMarshal.Value.Basic

/-!
# The types of values

`Value.type?` is the type a value shows of itself, `Value.isInstanceOf` decides whether it may be
stored in a slot of a declared type, and `Object.wrapping` makes an object of a plain value, with
the class that the value's type calls for. Main statements: one equation per form of `isInstanceOf`
(`isInstanceOf_null`, `isInstanceOf_array`, `isInstanceOf_object`, `isInstanceOf_of_plain`,
`isInstanceOf_of_type?`).
-/

namespace CellMarshal

namespace Value

/-! ## The type a value shows -/

/-- The type that all of some types are, or the object type where they differ or there are none. -/
def commonType : List DeclType → DeclType
  | [] => .object
  | t :: ts => if ts.all (· == t) then t else .object

mutual

/-- The type a value shows of itself; none for no value. Plain values show the box of their
primitive type, and arrays the type that their elements have in common. -/
def type? : Value → Option DeclType
  | null => none
  | boolean _ => some (.plain (.boxed .boolean))
  | byte _ => some (.plain (.boxed .byte))
  | short _ => some (.plain (.boxed .short))
  | int _ => some (.plain (.boxed .int))
  | long _ => some (.plain (.boxed .long))
  | float _ => some (.plain (.boxed .float))
  | double _ => some (.plain (.boxed .double))
  | char _ => some (.plain (.boxed .char))
  | string _ => some (.plain .string)
  | date _ => some (.plain .date)
  | dateTime _ => some (.plain .dateTime)
  | list _ => some (.plain .list)
  | set _ => some (.plain .set)
  | map _ => some (.plain .map)
  | array items => some (.array (commonType (types items)))
  | handle _ _ => some (.plain .handle)
  | cell _ => some (.plain .cell)
  | object o => some (.plain (.named o.classId.name))

/-- The types that some values show, values without a type left out. -/
def types : List Value → List DeclType
  | [] => []
  | v :: vs =>
    match type? v with
    | none => types vs
    | some t => t :: types vs

end

/-- The types of some items are those that they show, in order. -/
theorem types_eq_filterMap (items : List Value) : types items = items.filterMap type? := by
  induction items with
  | nil => rfl
  | cons v vs ih =>
    rw [types, ih]
    cases h : type? v <;> simp [h]

/-- No value is the only one that shows no type. -/
theorem type?_eq_none_iff {v : Value} : v.type? = none ↔ v = null := by
  cases v <;> simp [type?]

/-- The name of the type a value shows. -/
def typeName (v : Value) : String :=
  match v.type? with
  | none => "null"
  | some t => t.display

/-! ## Fitting a declared type -/

/-- Whether a value with no parts to look at fits a slot: by the type it shows. -/
def fitsByType (v : Value) (target : DeclType) : Bool :=
  v.type?.any target.accepts

mutual

/-- Whether a value may be stored in a slot declared as `target`. No value fits every slot that is
not primitive; an array fits by its elements; an object fits by its class, or by the value that it
wraps. -/
def isInstanceOf (target : DeclType) : Value → Bool
  | null => !target.isPrimitive
  | object ⟨_, classId, content⟩ =>
    match target.raw? with
    | some .object => true
    | some (.named name) => classId.isInstanceOf name
    | _ => contentFits target content
  | array items =>
    match target with
    | .array component => allInstancesOf component items
    | t => t.isObject
  | v => fitsByType v target

/-- Whether all of some values may be stored in slots declared as `target`. -/
def allInstancesOf (target : DeclType) : List Value → Bool
  | [] => true
  | v :: vs => isInstanceOf target v && allInstancesOf target vs

/-- Whether there is a value and it may be stored in a slot declared as `target`. -/
def contentFits (target : DeclType) : Option Value → Bool
  | none => false
  | some v => isInstanceOf target v

end

/-- Whether content fits is whether there is some that does. -/
theorem contentFits_eq_any (target : DeclType) (content : Option Value) :
    contentFits target content = content.any (isInstanceOf target) := by
  cases content <;> rfl

/-- All items are instances of a type where each of them is. -/
theorem allInstancesOf_iff {target : DeclType} {items : List Value} :
    allInstancesOf target items = true ↔ ∀ v ∈ items, isInstanceOf target v = true := by
  induction items with
  | nil => simp [allInstancesOf]
  | cons v vs ih => simp [allInstancesOf, ih]

/-- No value is an instance of every type that is not primitive. -/
theorem isInstanceOf_null (target : DeclType) : null.isInstanceOf target = !target.isPrimitive := by
  rw [isInstanceOf]

/-- An array is an instance of an array type where its items are of the component. -/
theorem isInstanceOf_array (items : List Value) (component : DeclType) :
    (array items).isInstanceOf (.array component) = allInstancesOf component items := by
  rw [isInstanceOf]

/-- An array fits types with a class only where any object does. -/
theorem isInstanceOf_array_of_raw {items : List Value} {target : DeclType} {t : RawType}
    (h : target.raw? = some t) : (array items).isInstanceOf target = target.isObject := by
  cases target with
  | array c => cases h
  | _ => rw [isInstanceOf]; simp

/-- An object is an instance of the type that any object fits. -/
theorem isInstanceOf_object_of_object {o : Object} {target : DeclType}
    (h : target.raw? = some .object) : (object o).isInstanceOf target = true := by
  rw [isInstanceOf, h]

/-- An object is an instance of a named class where its own class is one of it. -/
theorem isInstanceOf_object_of_named {o : Object} {target : DeclType} {name : String}
    (h : target.raw? = some (.named name)) :
    (object o).isInstanceOf target = o.classId.isInstanceOf name := by
  rw [isInstanceOf, h]

/-- Otherwise an object fits where the value that it wraps fits. -/
theorem isInstanceOf_object {o : Object} {target : DeclType} (ho : target.raw? ≠ some .object)
    (hn : ∀ name, target.raw? ≠ some (.named name)) :
    (object o).isInstanceOf target = o.content.any (isInstanceOf target) := by
  rw [isInstanceOf]
  split
  · exact absurd ‹_› ho
  · exact absurd ‹_› (hn _)
  · exact contentFits_eq_any target o.content

/-- Any other value fits by the type that it shows. -/
theorem isInstanceOf_of_plain {v : Value} {target : DeclType} (hn : v ≠ null)
    (ha : ∀ items, v ≠ array items) (ho : ∀ o, v ≠ object o) :
    v.isInstanceOf target = v.fitsByType target := by
  cases v with
  | null => exact absurd rfl hn
  | array items => exact absurd rfl (ha items)
  | object o => exact absurd rfl (ho o)
  | _ => rw [isInstanceOf] <;> simp

/-- A value that shows a built-in class fits where that class does. -/
theorem isInstanceOf_of_type? {v : Value} {t : RawType} {target : DeclType}
    (h : v.type? = some (.plain t)) (ht : ∀ name, t ≠ .named name) :
    v.isInstanceOf target = target.accepts (.plain t) := by
  rw [isInstanceOf_of_plain, fitsByType, h, Option.any_some]
  · rintro rfl
    cases h
  · rintro items rfl
    simp [type?] at h
  · rintro o rfl
    simp only [type?, Option.some.injEq, DeclType.plain.injEq] at h
    exact ht _ h.symm

end Value

/-! ## Wrapping -/

namespace Object

/-- The class of an object that wraps a value: the type the value shows, and the types above it. -/
def wrapperClass (v : Value) : ClassId :=
  { name := v.typeName
    supertypes := (v.type?.map fun t => (t.lineage.drop 1).map DeclType.display).getD [] }

/-- An object that wraps a value. -/
def wrapping (identity : Identity) (v : Value) : Object :=
  { identity := identity, classId := wrapperClass v, content := some v }

end Object

end CellMarshal
