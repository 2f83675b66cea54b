import CellMarshal.Cell.Basic

/-!
# Equality and fingerprints of cells

`Cell.same` compares two cells part by part, numbers by their value as numbers: two zeros are equal
whatever their signs, and not-a-number differs from itself. `Cell.fingerprint` lists what a hash of
a cell is computed from, in order; there numbers count by their bits. Main statements: one equation
per form of `same` (`same_grid`, `same_bag`, …) and `fingerprint_grid`, `fingerprint_bag`.
-/

namespace CellMarshal.Cell

/-! ## Equality -/

mutual

/-- Whether two cells are equal. -/
def same : Cell → Cell → Bool
  | number x, number y => x == y
  | text s, text t => s == t
  | boolean a, boolean b => a == b
  | integer i, integer j => i == j
  | grid r, grid s => sameRows r s
  | reference h t, reference h' t' => h == h' && t == t'
  | error e, error f => e == f
  | missing, missing => true
  | bag r, bag s => sameRow r s
  | _, _ => false

/-- Whether two rows are equal, cell by cell. -/
def sameRow : List Cell → List Cell → Bool
  | [], [] => true
  | c :: r, d :: s => same c d && sameRow r s
  | _, _ => false

/-- Whether two lists of rows are equal, row by row. -/
def sameRows : List (List Cell) → List (List Cell) → Bool
  | [], [] => true
  | r :: rs, s :: ss => sameRow r s && sameRows rs ss
  | _, _ => false

end

/-- Cells are tested for equality part by part. -/
instance : BEq Cell := ⟨same⟩

/-- Grids are equal where their rows are. -/
theorem same_grid (r s : List (List Cell)) : (grid r).same (grid s) = sameRows r s := by
  rw [same]

/-- Bags are equal where their items are. -/
theorem same_bag (r s : List Cell) : (bag r).same (bag s) = sameRow r s := by
  rw [same]

/-! ## Fingerprints -/

/-- One item of what a hash is computed from. -/
inductive Token where
  | kind (k : CellKind)
  | bits (b : UInt64)
  | text (s : String)
  | flag (b : Bool)
  | integer (i : Int32)
  | handle (h : Handle)
  | code (e : ErrorCode)
  | size (n : Nat)
  deriving DecidableEq

mutual

/-- What a hash of a cell is computed from: its kind, then its content. Numbers count by their bits,
and every list is preceded by its length. -/
def fingerprint : Cell → List Token
  | number x => [.kind .number, .bits x.toBits]
  | text s => [.kind .text, .text s]
  | boolean b => [.kind .boolean, .flag b]
  | integer i => [.kind .integer, .integer i]
  | grid rows => .kind .grid :: .size rows.length :: fingerprintRows rows
  | reference h t => [.kind .reference, .handle h, .text t]
  | error e => [.kind .error, .code e]
  | missing => [.kind .missing]
  | bag items => .kind .bag :: .size items.length :: fingerprintRow items

/-- The fingerprints of some cells, one after the other. -/
def fingerprintRow : List Cell → List Token
  | [] => []
  | c :: row => fingerprint c ++ fingerprintRow row

/-- The fingerprints of some rows, each after its length. -/
def fingerprintRows : List (List Cell) → List Token
  | [] => []
  | row :: rows => .size row.length :: (fingerprintRow row ++ fingerprintRows rows)

end

/-- The fingerprint of a grid starts with its kind and the number of its rows. -/
theorem fingerprint_grid (rows : List (List Cell)) :
    (grid rows).fingerprint = .kind .grid :: .size rows.length :: fingerprintRows rows := by
  rw [fingerprint]

/-- The fingerprint of a bag starts with its kind and the number of its items. -/
theorem fingerprint_bag (items : List Cell) :
    (bag items).fingerprint = .kind .bag :: .size items.length :: fingerprintRow items := by
  rw [fingerprint]

end CellMarshal.Cell
