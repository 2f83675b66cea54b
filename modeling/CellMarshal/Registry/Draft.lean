import CellMarshal.Registry.Basic

/-!
# Drafting a registry

A `Draft` collects converters for a registry under two checks: a converter has to support its kind
of cell, and no two converters for the same type and kind may have the same priority, for then
nothing would decide between them. `stockTable` is the table that a registry has unless another is
drafted. Main statements: `register_ok_iff`, `register_eq_of_unsupported`, `register_eq_of_clash`,
and `register_stock` (the stock table passes the checks).
-/

namespace CellMarshal.Registry

/-! ## The stock table -/

/-- The converters that a registry has unless another table is drafted. -/
def stockTable : List Converter := [
  ⟨.numeric .double, .number, 10⟩,
  ⟨.numeric .float, .number, 9⟩,
  ⟨.numeric .long, .number, 8⟩,
  ⟨.numeric .int, .number, 7⟩,
  ⟨.numeric .short, .number, 6⟩,
  ⟨.numeric .byte, .number, 5⟩,
  ⟨.numeric .int, .integer, 10⟩,
  ⟨.numeric .short, .integer, 8⟩,
  ⟨.numeric .byte, .integer, 7⟩,
  ⟨.numeric .double, .integer, 6⟩,
  ⟨.numeric .float, .integer, 5⟩,
  ⟨.numeric .long, .integer, 4⟩,
  ⟨.logical, .boolean, 10⟩,
  ⟨.logicalNumeric, .number, 1⟩,
  ⟨.text, .text, 10⟩,
  ⟨.textNumeric, .number, 1⟩,
  ⟨.charText, .text, 5⟩,
  ⟨.date, .number, 2⟩,
  ⟨.dateTime, .number, 2⟩,
  ⟨.array, .grid, 10⟩,
  ⟨.list, .grid, 8⟩,
  ⟨.set, .grid, 7⟩,
  ⟨.map, .grid, 6⟩,
  ⟨.handle, .reference, 10⟩,
  ⟨.cell, .bag, 0⟩,
  ⟨.objectHandle, .reference, -10⟩]

/-- The registry of the stock table. -/
def stock (orientation : Orientation) : Registry :=
  ofConverters stockTable orientation

/-! ## Drafts -/

/-- Converters accepted so far, in the order in which they came. -/
structure Draft where
  converters : List Converter := []
  orientation : Orientation := .column

namespace Draft

/-- Whether two converters are for the same type and kind at the same priority. -/
def clashes (c d : Converter) : Bool :=
  c.valueType == d.valueType && c.kind == d.kind && c.priority == d.priority

/-- Adds a converter to the draft, provided that it passes the checks. -/
def register (b : Draft) (c : Converter) : Except Failure Draft :=
  if c.form.supports c.kind = false then
    .error (.invalidConverter (c.form.display ++ " cannot map " ++ c.kind.word))
  else if b.converters.any fun d => clashes d c then
    .error (.duplicateConverter c.valueType.display c.kind c.priority)
  else .ok { b with converters := b.converters ++ [c] }

/-- Drops every converter of a form and a kind of cell. -/
def remove (b : Draft) (form : ConverterForm) (kind : CellKind) : Draft :=
  { b with converters := b.converters.filter fun c => !(c.form == form && c.kind == kind) }

/-- The draft with an orientation for collections. -/
def withOrientation (b : Draft) (orientation : Orientation) : Draft :=
  { b with orientation := orientation }

/-- A draft that holds the stock table. -/
def ofStock : Draft :=
  { converters := stockTable }

/-- The registry of the converters accepted. -/
def build (b : Draft) : Registry :=
  ofConverters b.converters b.orientation

/-- A converter for a kind of cell that its form does not support is invalid. -/
theorem register_eq_of_unsupported {b : Draft} {c : Converter}
    (h : c.form.supports c.kind = false) :
    b.register c =
      .error (.invalidConverter (c.form.display ++ " cannot map " ++ c.kind.word)) := by
  simp [register, h]

/-- A converter that clashes with one of the draft is a duplicate. -/
theorem register_eq_of_clash {b : Draft} {c : Converter} (hs : c.form.supports c.kind = true)
    (hc : b.converters.any (fun d => clashes d c) = true) :
    b.register c = .error (.duplicateConverter c.valueType.display c.kind c.priority) := by
  simp only [register, hs, hc, Bool.true_eq_false, if_false, if_true]

/-- A draft takes a converter exactly if its form supports its kind and it clashes with none, and
puts it after the others. -/
theorem register_ok_iff {b b' : Draft} {c : Converter} :
    b.register c = .ok b' ↔
      c.form.supports c.kind = true ∧ b.converters.any (fun d => clashes d c) = false ∧
        b' = { b with converters := b.converters ++ [c] } := by
  cases hs : c.form.supports c.kind with
  | false => simp [register_eq_of_unsupported hs]
  | true =>
    cases hc : b.converters.any fun d => clashes d c with
    | true => simp [register_eq_of_clash hs hc]
    | false => simp [register, hs, hc, eq_comm]

/-- The stock table passes the checks, registered in its own order. -/
theorem register_stock :
    (stockTable.foldlM register ({} : Draft)).toOption.map Draft.converters =
      some stockTable := by
  decide

end Draft

end CellMarshal.Registry
