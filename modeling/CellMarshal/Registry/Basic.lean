import CellMarshal.Failure
import CellMarshal.Registry.Ranking
import CellMarshal.Table
import CellMarshal.Value.Instance

/-!
# The registry

A registry holds converters in rank order and looks them up in both directions. For a cell, the
converters that read its kind are taken from an index, and the first of them counts that produces
what the slot can hold. For a declared type, the levels of its lineage are walked from the most
specific one, and at each the first converter that serves it counts; a hint restricts the walk to
one kind of cell, and where no level can honour it the walk is made again without it. Main
statements: `reader?_eq_find?` (the index answers as a scan of all converters would),
`resolveKind_ok_iff` and `resolveKind_error_iff`, `of_reader?_eq_some`, `of_server?_eq_some`,
`resolveFor_ok_iff` and `resolveFor_error_iff`.
-/

namespace CellMarshal

/-- How a one-dimensional collection lies in a grid. -/
inductive Orientation where
  | column
  | row
  deriving DecidableEq, Repr

/-- Converters in rank order, and the orientation that they write collections in. -/
structure Registry where
  ranked : List Converter
  orientation : Orientation

namespace Registry

/-- The registry of some converters, in the order in which they were registered. -/
def ofConverters (cs : List Converter) (orientation : Orientation) : Registry :=
  { ranked := rank cs, orientation := orientation }

/-! ## From cells to values -/

/-- The converters that read a kind of cell, in rank order. -/
def readers (r : Registry) (kind : CellKind) : List Converter :=
  r.ranked.filter fun c => c.reads kind

/-- The converters that read each kind of cell, in rank order. -/
def index (r : Registry) : Table CellKind (List Converter) :=
  { pairs := CellKind.all.map fun kind => (kind, r.readers kind) }

/-- The first converter that the index has for a kind of cell and that produces what a slot can
hold. -/
def reader? (r : Registry) (target : DeclType) (kind : CellKind) : Option Converter :=
  (r.index.find? kind).bind fun readers => readers.find? fun c => c.produces target

/-- The converter for a cell of some kind in a slot declared as `target`. -/
def resolveKind (r : Registry) (target : DeclType) (kind : CellKind) : Except Failure Converter :=
  match r.reader? target kind with
  | some c => .ok c
  | none => .error (.noConverter target.display kind.word)

/-- The index has every kind of cell. -/
theorem find?_index (r : Registry) (kind : CellKind) :
    r.index.find? kind = some (r.readers kind) := by
  cases kind <;> rfl

/-- Looking through the readers that the index has is looking through all converters. -/
theorem reader?_eq_find? (r : Registry) (target : DeclType) (kind : CellKind) :
    r.reader? target kind = r.ranked.find? fun c => c.reads kind && c.produces target := by
  rw [reader?, find?_index, Option.bind_some, readers, List.find?_filter]
  simp only [Bool.decide_and, Bool.decide_eq_true]

/-- A converter that is found for a cell is resolved. -/
theorem resolveKind_of_some {r : Registry} {target : DeclType} {kind : CellKind} {c : Converter}
    (h : r.reader? target kind = some c) : r.resolveKind target kind = .ok c := by
  simp [resolveKind, h]

/-- Where no converter is found for a cell, the failure names the type and the kind of the cell. -/
theorem resolveKind_of_none {r : Registry} {target : DeclType} {kind : CellKind}
    (h : r.reader? target kind = none) :
    r.resolveKind target kind = .error (.noConverter target.display kind.word) := by
  simp [resolveKind, h]

/-- A cell resolves to the converter that is found for it. -/
theorem resolveKind_ok_iff {r : Registry} {target : DeclType} {kind : CellKind} {c : Converter} :
    r.resolveKind target kind = .ok c ↔ r.reader? target kind = some c := by
  unfold resolveKind
  split <;> simp_all

/-- A cell fails to resolve exactly if no converter is found, and then with a failure that names the
type and the kind of the cell. -/
theorem resolveKind_error_iff {r : Registry} {target : DeclType} {kind : CellKind} {f : Failure} :
    r.resolveKind target kind = .error f ↔
      r.reader? target kind = none ∧ f = .noConverter target.display kind.word := by
  unfold resolveKind
  cases r.reader? target kind with
  | some c => simp
  | none => simp [eq_comm]

/-- A converter found for a cell reads it, produces what the slot holds, and is registered. -/
theorem of_reader?_eq_some {r : Registry} {target : DeclType} {kind : CellKind} {c : Converter}
    (h : r.reader? target kind = some c) :
    c ∈ r.ranked ∧ c.reads kind = true ∧ c.produces target = true := by
  rw [reader?_eq_find?] at h
  have hp := List.find?_some h
  have hm := List.mem_of_find?_eq_some h
  simp only [Bool.and_eq_true] at hp
  exact ⟨hm, hp.1, hp.2⟩

/-! ## From values to cells -/

/-- The first converter that serves a level, among those of a hinted kind of cell. -/
def server? (r : Registry) (hint : Option CellKind) (level : DeclType) : Option Converter :=
  r.ranked.find? fun c => c.serves level && hint.all fun kind => c.kind == kind

/-- The converter for the first of some levels that has one. -/
def walk (r : Registry) (hint : Option CellKind) (levels : List DeclType) : Option Converter :=
  levels.findSome? (r.server? hint)

/-- The converter that writes values of a type, preferring a hinted kind of cell. -/
def writer? (r : Registry) (type : DeclType) (hint : Option CellKind) : Option Converter :=
  match hint with
  | none => r.walk none type.lineage
  | some kind => (r.walk (some kind) type.lineage).or (r.walk none type.lineage)

/-- How a message names the cell that a value was to be written as. -/
def hintWord : Option CellKind → String
  | none => "any wire value"
  | some kind => kind.word

/-- The converter for values declared as `type`. -/
def resolveFor (r : Registry) (type : DeclType) (hint : Option CellKind) :
    Except Failure Converter :=
  match r.writer? type hint with
  | some c => .ok c
  | none => .error (.noConverter type.display (hintWord hint))

/-- The converter for a value, by the type it shows. -/
def resolveValue (r : Registry) (v : Value) (hint : Option CellKind) : Except Failure Converter :=
  match v.type? with
  | some type => r.resolveFor type hint
  | none => .error (.nullArgument "cannot pick a converter for null")

/-- A converter that is found for a type is resolved. -/
theorem resolveFor_of_some {r : Registry} {type : DeclType} {hint : Option CellKind}
    {c : Converter} (h : r.writer? type hint = some c) : r.resolveFor type hint = .ok c := by
  simp [resolveFor, h]

/-- Where no converter is found for a type, the failure names the type and what it was to be written
as. -/
theorem resolveFor_of_none {r : Registry} {type : DeclType} {hint : Option CellKind}
    (h : r.writer? type hint = none) :
    r.resolveFor type hint = .error (.noConverter type.display (hintWord hint)) := by
  simp [resolveFor, h]

/-- A type resolves to the converter that is found for it. -/
theorem resolveFor_ok_iff {r : Registry} {type : DeclType} {hint : Option CellKind}
    {c : Converter} : r.resolveFor type hint = .ok c ↔ r.writer? type hint = some c := by
  unfold resolveFor
  split <;> simp_all

/-- A type fails to resolve exactly if no converter is found, and then with a failure that names the
type and what it was to be written as. -/
theorem resolveFor_error_iff {r : Registry} {type : DeclType} {hint : Option CellKind}
    {f : Failure} :
    r.resolveFor type hint = .error f ↔
      r.writer? type hint = none ∧ f = .noConverter type.display (hintWord hint) := by
  unfold resolveFor
  cases r.writer? type hint with
  | some c => simp
  | none => simp [eq_comm]

/-- A converter found for a level serves it, is of the hinted kind, and is registered. -/
theorem of_server?_eq_some {r : Registry} {hint : Option CellKind} {level : DeclType}
    {c : Converter} (h : r.server? hint level = some c) :
    c ∈ r.ranked ∧ c.serves level = true ∧ ∀ kind ∈ hint, c.kind = kind := by
  have hp := List.find?_some h
  have hm := List.mem_of_find?_eq_some h
  simp only [Bool.and_eq_true] at hp
  refine ⟨hm, hp.1, ?_⟩
  rintro kind hk
  cases hk
  simpa using hp.2

end Registry

end CellMarshal
