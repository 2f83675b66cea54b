import CellMarshal.Arena
import CellMarshal.Cell.Grid
import CellMarshal.Converter.Scalar
import CellMarshal.Registry.Basic

/-!
# Writing values

Writing turns a value of a declared type into a cell. Objects are handed over through the arena on
the way, one by one, and a writing that fails leaves behind what it had handed over until then; so a
writing is a function of the arena that gives a cell or a failure, and an arena in any case.

`Registry.writeWith` writes by one converter, `Registry.write` by the converter for the declared
type, and `Registry.writeValue` by the type that the value shows. Main statements: the equations of
the three (`writeWith_null`, `writeWith_list`, …, `write_of_open`, `write_of_closed`,
`writeValue_of_type`), and `writeItems_nil`, `writeItems_cons`.
-/

namespace CellMarshal

/-- A computation that may hand objects over and may fail. -/
abbrev Writing := ExceptT Failure (StateM Arena)

namespace Writing

/-- What a writing gives, and the arena that it leaves. -/
def runOn {α : Type} (w : Writing α) (a : Arena) : Except Failure α × Arena :=
  (ExceptT.run w).run a

/-- Hands a cell out, and keeps the arena that goes with it. -/
def ofArena (f : Arena → Cell × Arena) : Writing Cell :=
  ExceptT.lift (StateT.mk fun a => pure (f a))

/-- A result that does not concern the arena. -/
def ofResult {α : Type} (e : Except Failure α) : Writing α :=
  ExceptT.mk (pure e)

/-- To give a value leaves the arena. -/
theorem runOn_pure {α : Type} (x : α) (a : Arena) :
    (pure x : Writing α).runOn a = (.ok x, a) := rfl

/-- A result that does not concern the arena leaves it. -/
theorem runOn_ofResult {α : Type} (e : Except Failure α) (a : Arena) :
    (ofResult e).runOn a = (e, a) := rfl

/-- Handing something over gives the cell and leaves the arena that go together. -/
theorem runOn_ofArena (f : Arena → Cell × Arena) (a : Arena) :
    (ofArena f).runOn a = (.ok (f a).1, (f a).2) := rfl

/-- A chain goes on where its first link left the arena. -/
theorem runOn_bind_of_ok {α β : Type} {w : Writing α} {k : α → Writing β} {a b : Arena} {x : α}
    (h : w.runOn a = (.ok x, b)) : (w >>= k).runOn a = (k x).runOn b := by
  change (ExceptT.bindCont k (w.runOn a).1 : StateM Arena _).run (w.runOn a).2 = _
  rw [h]
  rfl

/-- A chain ends where its first link fails. -/
theorem runOn_bind_of_error {α β : Type} {w : Writing α} {k : α → Writing β} {a b : Arena}
    {f : Failure} (h : w.runOn a = (.error f, b)) : (w >>= k).runOn a = (.error f, b) := by
  change (ExceptT.bindCont k (w.runOn a).1 : StateM Arena _).run (w.runOn a).2 = _
  rw [h]
  rfl

/-! ## Values that are not looked into -/

/-- Writes a reference as it is. -/
def writeHandle : Value → Except Failure Cell
  | .handle h t => .ok (.reference h t)
  | .cell (.reference h t) => .ok (.reference h t)
  | v => .error (.unexpectedValue "ObjectHandle" v)

/-- Writes a cell as it is. -/
def writeCell : Value → Except Failure Cell
  | .cell c => .ok c
  | v => .error (.unexpectedValue "WireValue" v)

/-- Hands a value over: an object under its own identity, a reference as it is, and anything else
wrapped in an object of its own. -/
def writeObject : Value → Writing Cell
  | .object o => ofArena fun a => a.handOver o
  | .handle h t => pure (.reference h t)
  | v => ofArena fun a => a.park v

/-- Writes a value by a form that does not look into containers. -/
def writeWhole (form : ConverterForm) (kind : CellKind) (declared : DeclType) (v : Value) :
    Writing Cell :=
  match form with
  | .numeric p => ofResult (Scalar.writeNumeric p kind v)
  | .logical => ofResult (Scalar.writeLogical v)
  | .logicalNumeric => ofResult (Scalar.writeLogicalNumeric v)
  | .text => ofResult (Scalar.writeText v)
  | .textNumeric => ofResult (Scalar.writeTextNumeric v)
  | .charText => ofResult (Scalar.writeCharText v)
  | .date => ofResult (Scalar.writeDate v)
  | .dateTime => ofResult (Scalar.writeDateTime v)
  | .list | .set | .map | .array => ofResult (.error (.unexpectedValue declared.display v))
  | .handle => ofResult (writeHandle v)
  | .cell => ofResult (writeCell v)
  | .objectHandle => writeObject v

/-! ## Laying out collections -/

/-- The cells of a grid as one row. -/
def asRow : Cell → List Cell
  | .grid rows => rows.flatten
  | c => [c]

/-- A vector of cells in an orientation. -/
def vector (orientation : Orientation) (cells : List Cell) : Cell :=
  match orientation with
  | .column => Cell.column cells
  | .row => Cell.row cells

/-- Lays out the cells of a sequence: one row for each element where some element is a container
itself, and a vector otherwise. -/
def layOut (orientation : Orientation) (items : List Value) (cells : List Cell) : Cell :=
  if items.any Value.isNested then Cell.padded (cells.map asRow) else vector orientation cells

/-- Lays out the rows of a map. -/
def layOutRows (rows : List (List Cell)) : Cell :=
  if rows.isEmpty then Cell.emptyGrid else .grid rows

/-- The type that elements are written for; none where the elements themselves have to say. -/
def elementType (declared : DeclType) : Option DeclType :=
  declared.element?.filter fun t => !t.isOpen

/-- The type that the keys of a map are written for. -/
def keyType (declared : DeclType) : Option DeclType :=
  (declared.mapTypes?.map Prod.fst).filter fun t => !t.isOpen

/-- The type that the values of a map are written for. -/
def valueType (declared : DeclType) : Option DeclType :=
  (declared.mapTypes?.map Prod.snd).filter fun t => !t.isOpen

/-- The type that one element is written for: the declared one, or the one that it shows. -/
def typeFor (elem : Option DeclType) (v : Value) : DeclType :=
  elem.getD (v.type?.getD .object)

end Writing

namespace Registry

open Writing

/-! ## One converter -/

/-- Writes an element of a container, given the writing by a converter: no value becomes a missing
cell, and any other is written by the converter for its declared type, or for the type it shows. -/
def elementBy (r : Registry) (elem : Option DeclType) (v : Value)
    (writing : Converter → Writing Cell) : Writing Cell :=
  if v.isNull then pure .missing else ofResult (r.resolveFor (typeFor elem v) none) >>= writing

mutual

/-- Writes a value by a converter, as a value declared as `declared`. -/
def writeWith (r : Registry) (k : Converter) (declared : DeclType) : Value → Writing Cell
  | .null =>
    if k.toleratesNull then pure .missing
    else ofResult (.error (.nullArgument (k.display ++ " cannot encode null " ++ declared.display)))
  | .list items =>
    if k.form = .list ∨ k.form = .array then do
      let cells ← writeItems r (elementType declared) items
      pure (layOut r.orientation items cells)
    else writeWhole k.form k.kind declared (.list items)
  | .array items =>
    if k.form = .list ∨ k.form = .array then do
      let cells ← writeItems r (elementType declared) items
      pure (layOut r.orientation items cells)
    else writeWhole k.form k.kind declared (.array items)
  | .set items =>
    if k.form = .set then do
      let cells ← writeItems r (elementType declared) items
      pure (layOut .column items cells)
    else writeWhole k.form k.kind declared (.set items)
  | .map entries =>
    if k.form = .map then do
      let rows ← writeEntries r (keyType declared) (valueType declared) entries
      pure (layOutRows rows)
    else writeWhole k.form k.kind declared (.map entries)
  | v => writeWhole k.form k.kind declared v

/-- Writes elements one after the other. No value becomes a missing cell. -/
def writeItems (r : Registry) (elem : Option DeclType) : List Value → Writing (List Cell)
  | [] => pure []
  | v :: vs => do
    let c ← elementBy r elem v fun k => writeWith r k (typeFor elem v) v
    let cs ← writeItems r elem vs
    pure (c :: cs)

/-- Writes entries one after the other, the key of each before its value. -/
def writeEntries (r : Registry) (keys values : Option DeclType) :
    List (Value × Value) → Writing (List (List Cell))
  | [] => pure []
  | (k, v) :: es => do
    let c ← elementBy r keys k fun conv => writeWith r conv (typeFor keys k) k
    let d ← elementBy r values v fun conv => writeWith r conv (typeFor values v) v
    let rows ← writeEntries r keys values es
    pure ([c, d] :: rows)

end

/-! ## Declared and shown types -/

/-- Writes a value by the type that it shows. No value becomes a missing cell. -/
def writeValue (r : Registry) (v : Value) : Writing Cell :=
  match v.type? with
  | none => pure .missing
  | some type => do
    let k ← ofResult (r.resolveFor type none)
    r.writeWith k type v

/-- Writes a value declared as `declared`. Where the declaration says nothing about the form of the
cell, the type that the value shows decides. -/
def write (r : Registry) (declared : DeclType) (v : Value) : Writing Cell :=
  if declared.isOpen then r.writeValue v
  else do
    let k ← ofResult (r.resolveFor declared none)
    r.writeWith k declared v

/-- Writes an element of a container. -/
def writeElement (r : Registry) (elem : Option DeclType) (v : Value) : Writing Cell :=
  r.elementBy elem v fun k => r.writeWith k (typeFor elem v) v

/-! ## Equations -/

variable (r : Registry) (k : Converter) (declared : DeclType)

/-- No value is written as a missing cell by a converter that tolerates it, and fails with the
others. -/
theorem writeWith_null : r.writeWith k declared .null =
    if k.toleratesNull then pure Cell.missing
    else ofResult
      (.error (.nullArgument (k.display ++ " cannot encode null " ++ declared.display))) := by
  rw [writeWith]

/-- A list is written by its elements, laid out. -/
theorem writeWith_list (items : List Value) (h : k.form = .list ∨ k.form = .array) :
    r.writeWith k declared (.list items) = (do
      let cells ← r.writeItems (elementType declared) items
      pure (layOut r.orientation items cells)) := by
  rw [writeWith, if_pos h]

/-- An array is written by its elements, laid out. -/
theorem writeWith_array (items : List Value) (h : k.form = .list ∨ k.form = .array) :
    r.writeWith k declared (.array items) = (do
      let cells ← r.writeItems (elementType declared) items
      pure (layOut r.orientation items cells)) := by
  rw [writeWith, if_pos h]

/-- A set is written by its elements, laid out as a column in either orientation. -/
theorem writeWith_set (items : List Value) (h : k.form = .set) :
    r.writeWith k declared (.set items) = (do
      let cells ← r.writeItems (elementType declared) items
      pure (layOut .column items cells)) := by
  rw [writeWith, if_pos h]

/-- A map is written by its entries, laid out in two columns. -/
theorem writeWith_map (entries : List (Value × Value)) (h : k.form = .map) :
    r.writeWith k declared (.map entries) = (do
      let rows ← r.writeEntries (keyType declared) (valueType declared) entries
      pure (layOutRows rows)) := by
  rw [writeWith, if_pos h]

/-- A form that does not look into containers treats every value but null as a whole. -/
theorem writeWith_of_whole {v : Value} (hv : v ≠ .null)
    (hf : k.form ≠ .list ∧ k.form ≠ .array ∧ k.form ≠ .set ∧ k.form ≠ .map) :
    r.writeWith k declared v = writeWhole k.form k.kind declared v := by
  cases v <;> simp_all [writeWith]

/-- A value that is no container is treated as a whole by every form. -/
theorem writeWith_of_not_nested {v : Value} (hv : v ≠ .null) (hn : v.isNested = false) :
    r.writeWith k declared v = writeWhole k.form k.kind declared v := by
  cases v <;> simp_all [writeWith, Value.isNested]

/-- An element that is no value is written as a missing cell. -/
theorem writeElement_null (elem : Option DeclType) :
    r.writeElement elem .null = pure .missing := rfl

/-- Any other element is written by the converter for the type that it is written for. -/
theorem writeElement_of_ne_null (elem : Option DeclType) {v : Value} (h : v ≠ .null) :
    r.writeElement elem v = (do
      let k ← ofResult (r.resolveFor (typeFor elem v) none)
      r.writeWith k (typeFor elem v) v) := by
  cases v with
  | null => exact absurd rfl h
  | _ => rfl

/-- No elements are written as no cells. -/
theorem writeItems_nil (elem : Option DeclType) : r.writeItems elem [] = pure [] := by
  rw [writeItems]

/-- Elements are written from the first to the last. -/
theorem writeItems_cons (elem : Option DeclType) (v : Value) (vs : List Value) :
    r.writeItems elem (v :: vs) = (do
      let c ← r.writeElement elem v
      let cs ← r.writeItems elem vs
      pure (c :: cs)) := by
  rw [writeItems]
  rfl

/-- No entries are written as no rows. -/
theorem writeEntries_nil (keys values : Option DeclType) :
    r.writeEntries keys values [] = pure [] := by
  rw [writeEntries]

/-- Entries are written from the first to the last, each key before its value. -/
theorem writeEntries_cons (keys values : Option DeclType) (x y : Value)
    (es : List (Value × Value)) :
    r.writeEntries keys values ((x, y) :: es) = (do
      let c ← r.writeElement keys x
      let d ← r.writeElement values y
      let rows ← r.writeEntries keys values es
      pure ([c, d] :: rows)) := by
  rw [writeEntries]
  rfl

/-- For an open type a value is written by the type that it shows. -/
theorem write_of_open {declared : DeclType} (h : declared.isOpen = true) (v : Value) :
    r.write declared v = r.writeValue v := by
  simp [write, h]

/-- For any other type a value is written by the converter for it. -/
theorem write_of_closed {declared : DeclType} (h : declared.isOpen = false) (v : Value) :
    r.write declared v = (do
      let k ← ofResult (r.resolveFor declared none)
      r.writeWith k declared v) := by
  simp [write, h]

/-- By the type that it shows, no value is written as a missing cell. -/
theorem writeValue_null : r.writeValue .null = pure .missing := rfl

/-- By the type that it shows, a value is written by the converter for this type. -/
theorem writeValue_of_type {v : Value} {type : DeclType} (h : v.type? = some type) :
    r.writeValue v = (do
      let k ← ofResult (r.resolveFor type none)
      r.writeWith k type v) := by
  simp [writeValue, h]

end Registry

end CellMarshal
