import CellMarshal.Cell.Kind
import CellMarshal.Typing.DeclType

/-!
# Converters

A converter joins a class of values and a kind of cell: it writes values as cells of its kind and
reads such cells back. It is a form from a closed set, the kind of cell, and a priority by which
several converters for the same purpose are ranked. Main statements: `reads_self` (a converter reads
its own kind), one equation per special form of `produces` and `serves`, and `produces_cases`.
-/

namespace CellMarshal

/-- What a converter does, apart from the kind of cell that it does it for. -/
inductive ConverterForm where
  /-- Numbers, cast to the primitive type on both sides. -/
  | numeric (p : Primitive)
  | logical
  /-- Truth values as 1 and 0. -/
  | logicalNumeric
  | text
  /-- Texts that hold a number. -/
  | textNumeric
  | charText
  /-- Dates as serials. -/
  | date
  | dateTime
  | list
  | set
  | map
  /-- Arrays of whatever component. -/
  | array
  /-- References, handed on as they are. -/
  | handle
  /-- Cells, handed on as they are. -/
  | cell
  /-- Any object, by way of the arena. -/
  | objectHandle
  deriving DecidableEq, Repr

namespace ConverterForm

/-- The word for a form. -/
def word : ConverterForm → String
  | numeric _ => "numeric"
  | logical => "logical"
  | logicalNumeric => "logical-numeric"
  | text => "text"
  | textNumeric => "text-numeric"
  | charText => "char-text"
  | date => "date"
  | dateTime => "datetime"
  | list => "list"
  | set => "set"
  | map => "map"
  | array => "array"
  | handle => "handle"
  | cell => "wire"
  | objectHandle => "object-handle"

/-- A form in a message: its word, with the primitive type of a numeric one. -/
def display : ConverterForm → String
  | numeric p => "numeric(" ++ p.name ++ ")"
  | f => f.word

/-- The type on the side of the values. Arrays show the array of objects and mean every array. -/
def valueType : ConverterForm → DeclType
  | numeric p => .plain (.boxed p)
  | logical | logicalNumeric => .plain (.boxed .boolean)
  | text | textNumeric => .plain .string
  | charText => .plain (.boxed .char)
  | date => .plain .date
  | dateTime => .plain .dateTime
  | list => .plain .list
  | set => .plain .set
  | map => .plain .map
  | array => .array .object
  | handle => .plain .handle
  | cell => .plain .cell
  | objectHandle => .object

/-- The kinds of cell a form can be used with. -/
def supports (f : ConverterForm) (kind : CellKind) : Bool :=
  match f with
  | numeric p => p.isNumeric && (kind == .number || kind == .integer)
  | logical => kind == .boolean
  | logicalNumeric | textNumeric | date | dateTime => kind == .number
  | text | charText => kind == .text
  | list | set | map | array => kind == .grid
  | handle | objectHandle => kind == .reference
  | cell => true

/-- Whether a form maps no value to a missing cell and back, where the others fail. -/
def toleratesNull : ConverterForm → Bool
  | handle | cell => true
  | _ => false

/-- Whether a form is for the values of one built-in class, which show this class of themselves. -/
def isPlain : ConverterForm → Bool
  | array | handle | cell | objectHandle => false
  | _ => true

/-- The form for arrays is not a plain one. -/
theorem ne_array_of_isPlain {f : ConverterForm} (h : f.isPlain = true) : f ≠ .array := by
  rintro rfl
  cases h

/-- Forms other than that for arrays are registered under a built-in class, which is neither
primitive nor, objects excepted, common to several others. -/
theorem valueType_of_ne_array {f : ConverterForm} (ha : f ≠ .array) :
    ∃ s, f.valueType = .plain s ∧ (∀ name, s ≠ .named name) ∧ s.isPrimitive = false ∧
      s ≠ .number ∧ s ≠ .collection ∧ (s = .object → f = .objectHandle) := by
  cases f with
  | array => exact absurd rfl ha
  | _ =>
    refine ⟨_, rfl, ?_⟩
    simp [RawType.isPrimitive]

/-- Four forms are not plain: the one for arrays, and those that hand references or cells on or
follow a reference. -/
theorem eq_of_isPlain_eq_false {f : ConverterForm} (h : f.isPlain = false) :
    f = array ∨ f = handle ∨ f = cell ∨ f = objectHandle := by
  cases f <;> simp_all [isPlain]

end ConverterForm

/-- A form, the kind of cell it is used with, and a priority. -/
structure Converter where
  form : ConverterForm
  kind : CellKind
  priority : Int32
  deriving DecidableEq, Repr

namespace Converter

/-- The type on the side of the values. -/
def valueType (c : Converter) : DeclType :=
  c.form.valueType

/-- Whether a converter maps no value to a missing cell and back. -/
def toleratesNull (c : Converter) : Bool :=
  c.form.toleratesNull

/-- The kinds of cell a converter reads: its own, missing cells where it tolerates them, and every
kind where it hands cells on as they are. -/
def reads (c : Converter) (kind : CellKind) : Bool :=
  c.form == .cell || c.kind == kind || (kind == .missing && c.toleratesNull)

/-- Whether what a converter reads can be stored in a slot declared as `target`. -/
def produces (c : Converter) (target : DeclType) : Bool :=
  match c.form with
  | .handle => target.isHandle
  | .cell => target.isCell
  | .objectHandle => !(target.isVoid || target.isHandle || target.isCell)
  | .array => target.isArray || target.isObject
  | _ => target.accepts c.valueType

/-- Whether a converter writes values declared at `level`, one level of a lineage. -/
def serves (c : Converter) (level : DeclType) : Bool :=
  match c.form with
  | .array => level.isArray
  | _ => level.erased == c.valueType

/-- A converter in a message. -/
def display (c : Converter) : String :=
  c.form.display ++ " (" ++ c.valueType.display ++ " <-> " ++ c.kind.word ++ ", priority " ++
    toString c.priority.toInt ++ ")"

/-- A converter reads cells of its own kind. -/
theorem reads_self (c : Converter) : c.reads c.kind = true := by
  simp [reads]

/-- What a converter reads: any cell if it hands cells on, cells of its kind, and missing cells if
it tolerates them. -/
theorem reads_iff {c : Converter} {kind : CellKind} :
    c.reads kind = true ↔
      c.form = .cell ∨ c.kind = kind ∨ (kind = .missing ∧ c.toleratesNull = true) := by
  simp [reads, or_assoc]

/-- A converter that hands references on produces values for references alone. -/
theorem produces_of_handle {c : Converter} (h : c.form = .handle) (target : DeclType) :
    c.produces target = target.isHandle := by
  simp [produces, h]

/-- A converter that hands cells on produces values for cells alone. -/
theorem produces_of_cell {c : Converter} (h : c.form = .cell) (target : DeclType) :
    c.produces target = target.isCell := by
  simp [produces, h]

/-- A converter that follows references produces values for every type but void, references and
cells. -/
theorem produces_of_objectHandle {c : Converter} (h : c.form = .objectHandle)
    (target : DeclType) :
    c.produces target = !(target.isVoid || target.isHandle || target.isCell) := by
  simp [produces, h]

/-- A converter for arrays produces values for arrays and for slots that any object fits. -/
theorem produces_of_array {c : Converter} (h : c.form = .array) (target : DeclType) :
    c.produces target = (target.isArray || target.isObject) := by
  simp [produces, h]

/-- Any other form goes by the type on the side of the values. -/
theorem produces_of_plain {c : Converter} (h : c.form.isPlain = true) (target : DeclType) :
    c.produces target = target.accepts c.valueType := by
  unfold produces
  split
  case h_5 => rfl
  all_goals
    rename_i hf
    rw [hf] at h
    cases h

/-- Everything that a converter can produce for a slot, and what the slot is then like. -/
theorem produces_cases {c : Converter} {target : DeclType} (h : c.produces target = true) :
    (c.form = .array ∧ (target.isArray || target.isObject) = true) ∨
      (c.form = .handle ∧ target.isHandle = true) ∨ (c.form = .cell ∧ target.isCell = true) ∨
        (c.form = .objectHandle ∧ (target.isVoid || target.isHandle || target.isCell) = false) ∨
          (c.form.isPlain = true ∧ target.accepts c.valueType = true) := by
  cases hp : c.form.isPlain with
  | true =>
    rw [produces_of_plain hp] at h
    exact Or.inr (Or.inr (Or.inr (Or.inr ⟨rfl, h⟩)))
  | false =>
    rcases ConverterForm.eq_of_isPlain_eq_false hp with hf | hf | hf | hf
    · rw [produces_of_array hf] at h
      exact Or.inl ⟨hf, h⟩
    · rw [produces_of_handle hf] at h
      exact Or.inr (Or.inl ⟨hf, h⟩)
    · rw [produces_of_cell hf] at h
      exact Or.inr (Or.inr (Or.inl ⟨hf, h⟩))
    · rw [produces_of_objectHandle hf, Bool.not_eq_true'] at h
      exact Or.inr (Or.inr (Or.inr (Or.inl ⟨hf, h⟩)))

/-- A converter for arrays serves every array. -/
theorem serves_of_array {c : Converter} (h : c.form = .array) (level : DeclType) :
    c.serves level = level.isArray := by
  simp [serves, h]

/-- Any other converter serves the type on the side of its values, whatever the arguments. -/
theorem serves_of_ne_array {c : Converter} (h : c.form ≠ .array) (level : DeclType) :
    c.serves level = (level.erased == c.valueType) := by
  unfold serves
  split
  · exact absurd ‹_› h
  · rfl

end Converter

end CellMarshal
