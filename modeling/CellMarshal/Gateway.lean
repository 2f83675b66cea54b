import CellMarshal.Binding.Invoke
import CellMarshal.Binding.Overload
import CellMarshal.Class.Catalog
import CellMarshal.Registry.Draft

/-!
# The gateway

Where a host comes in: it constructs objects, calls methods and reads fields by name, with cells for
arguments and a cell for the result, and gives back the references it holds. `ErrorCode.ofFailure`
is the usual error code of a failure, and the `…OrError` calls give the code in place of the
failure. Main statements: `invoke_ok`, `release_of_error`.
-/

namespace CellMarshal

/-! ## Error codes -/

/-- The usual error code for a failure. -/
def ErrorCode.ofFailure (f : Failure) : ErrorCode :=
  match f.kind with
  | .nullArgument => .null
  | .typeMismatch => .value
  | .noConverter | .noOverload => .name
  | .invalidHandle => .ref
  | .invocation => if f.isDivisionByZero then .div0 else .num
  | .resolution | .configuration => .value

/-! ## The gateway -/

/-- How a gateway treats objects, panics and collections. -/
structure Settings where
  retention : Retention := .keep
  guarded : Bool := true
  orientation : Orientation := .column
  deriving DecidableEq, Repr

/-- A registry, classes, error codes, and the host's side of calls. -/
structure Gateway (σ : Type) where
  settings : Settings
  registry : Registry
  codes : Failure → ErrorCode := ErrorCode.ofFailure
  catalog : Catalog σ := {}
  host : Host σ

variable {σ : Type}

namespace Gateway

/-- A gateway over a registry, whose orientation counts and not that of the settings. -/
def withRegistry (settings : Settings) (registry : Registry) (world : σ) : Gateway σ :=
  { settings := settings
    registry := registry
    host := { arena := { retention := settings.retention }, world := world } }

/-- A gateway over the stock table. -/
def withSettings (settings : Settings) (world : σ) : Gateway σ :=
  withRegistry settings (.stock settings.orientation) world

/-- The gateway with other error codes. -/
def withCodes (g : Gateway σ) (codes : Failure → ErrorCode) : Gateway σ :=
  { g with codes := codes }

/-- What the gateway binds members by. -/
def binder (g : Gateway σ) : Binder :=
  { registry := g.registry, guarded := g.settings.guarded }

/-- Registers a class. -/
def register (g : Gateway σ) (c : ClassDef σ) : Except Failure (Gateway σ) :=
  (g.catalog.register c).map fun catalog => { g with catalog := catalog }

/-! ## Calls -/

/-- Invokes what a lookup has bound. -/
def invoke (g : Gateway σ) (bound : Except Failure (Binding σ)) (args : List Cell) :
    Except Abort Cell × Gateway σ :=
  match bound with
  | .error f => (.error (.failure f), g)
  | .ok b =>
    let (result, host) := b.invoke args g.host
    (result, { g with host := host })

/-- Runs the constructor of a class that fits the arguments best. -/
def construct (g : Gateway σ) (cls : String) (args : List Cell) : Except Abort Cell × Gateway σ :=
  g.invoke (g.catalog.get cls >>= fun c => g.binder.constructor c args) args

/-- Calls the method of a class that fits the arguments best. -/
def call (g : Gateway σ) (cls method : String) (args : List Cell) :
    Except Abort Cell × Gateway σ :=
  g.invoke (g.catalog.get cls >>= fun c => g.binder.method c method args) args

/-- Reads a field of a class. -/
def getField (g : Gateway σ) (cls field : String) (args : List Cell) :
    Except Abort Cell × Gateway σ :=
  g.invoke (g.catalog.get cls >>= fun c => g.binder.field c field args) args

/-- Gives one reference back. -/
def release (g : Gateway σ) (h : Handle) : Except Failure (Bool × Gateway σ) :=
  (g.host.arena.release h).map fun (gone, arena) =>
    (gone, { g with host := { g.host with arena := arena } })

/-! ## Calls that show error codes -/

/-- The cell that shows a failure. -/
def errorCell (g : Gateway σ) (f : Failure) : Cell :=
  .error (g.codes f)

/-- A result in which failures are shown as error codes. Only a panic that nothing caught remains.
-/
def shown (g : Gateway σ) : Except Abort Cell × Gateway σ → Except Abort Cell × Gateway σ
  | (.error (.failure f), g') => (.ok (g.errorCell f), g')
  | result => result

/-- Constructs an object, or shows why not. -/
def constructOrError (g : Gateway σ) (cls : String) (args : List Cell) :
    Except Abort Cell × Gateway σ :=
  g.shown (g.construct cls args)

/-- Calls a method, or shows why not. -/
def callOrError (g : Gateway σ) (cls method : String) (args : List Cell) :
    Except Abort Cell × Gateway σ :=
  g.shown (g.call cls method args)

/-- Reads a field, or shows why not. -/
def getFieldOrError (g : Gateway σ) (cls field : String) (args : List Cell) :
    Except Abort Cell × Gateway σ :=
  g.shown (g.getField cls field args)

/-! ## Equations -/

/-- Where a call is bound to nothing, it fails as the look-up did and changes nothing. -/
theorem invoke_error (g : Gateway σ) (f : Failure) (args : List Cell) :
    g.invoke (.error f) args = (.error (.failure f), g) := rfl

/-- Where a call is bound, the binding is invoked on the host of the gateway. -/
theorem invoke_ok (g : Gateway σ) (b : Binding σ) (args : List Cell) :
    g.invoke (.ok b) args =
      ((b.invoke args g.host).1, { g with host := (b.invoke args g.host).2 }) := rfl

/-- A release that the arena refuses is refused by the gateway. -/
theorem release_of_error {g : Gateway σ} {h : Handle} {f : Failure}
    (hr : g.host.arena.release h = .error f) : g.release h = .error f := by
  simp [release, hr, Except.map]

end Gateway

end CellMarshal
