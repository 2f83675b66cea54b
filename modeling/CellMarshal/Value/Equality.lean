import CellMarshal.Cell.Equality
import CellMarshal.Value.Basic

/-!
# Equality of values

`Value.same` compares two values part by part: numbers by their value as numbers, so that
not-a-number differs from itself, and objects by their identity. `Value.distinct` drops the elements
that repeat an earlier one. Main statements: `same_object`, `distinct_append_single` and
`mem_of_mem_distinct`.
-/

namespace CellMarshal.Value

mutual

/-- Whether two values are equal. -/
def same : Value → Value → Bool
  | null, null => true
  | boolean a, boolean b => a == b
  | byte a, byte b => a == b
  | short a, short b => a == b
  | int a, int b => a == b
  | long a, long b => a == b
  | float a, float b => a == b
  | double a, double b => a == b
  | char a, char b => a == b
  | string a, string b => a == b
  | date a, date b => a == b
  | dateTime a, dateTime b => a == b
  | list a, list b => sameItems a b
  | set a, set b => sameItems a b
  | map a, map b => sameEntries a b
  | array a, array b => sameItems a b
  | handle h t, handle h' t' => h == h' && t == t'
  | cell a, cell b => a == b
  | object a, object b => a.identity == b.identity
  | _, _ => false

/-- Whether two lists of values are equal, item by item. -/
def sameItems : List Value → List Value → Bool
  | [], [] => true
  | a :: as, b :: bs => same a b && sameItems as bs
  | _, _ => false

/-- Whether two lists of entries are equal, entry by entry. -/
def sameEntries : List (Value × Value) → List (Value × Value) → Bool
  | [], [] => true
  | (k, v) :: as, (l, w) :: bs => same k l && same v w && sameEntries as bs
  | _, _ => false

end

/-- Values are tested for equality part by part. -/
instance : BEq Value := ⟨same⟩

/-- The test for equal values is equality part by part. -/
theorem beq_eq_same (v w : Value) : (v == w) = v.same w := rfl

/-- Objects are equal where they are of one identity. -/
theorem same_object (a b : Object) : (object a).same (object b) = (a.identity == b.identity) := by
  rw [same]

/-! ## Dropping repetitions -/

/-- The elements so far with one more, unless it is among them. -/
def insertNew (items : List Value) (v : Value) : List Value :=
  if items.any fun w => w == v then items else items ++ [v]

/-- The items without those that are equal to an earlier one. -/
def distinct (items : List Value) : List Value :=
  items.foldl insertNew []

/-- Of one more item, what is left is what was left before, and the item unless it is equal to one
of these. -/
theorem distinct_append_single (items : List Value) (v : Value) :
    distinct (items ++ [v]) = insertNew (distinct items) v := by
  simp [distinct]

/-- What is left with one more item was left before, or is the item. -/
theorem mem_of_mem_insertNew {items : List Value} {v w : Value} (h : w ∈ insertNew items v) :
    w ∈ items ∨ w = v := by
  unfold insertNew at h
  split at h
  · exact Or.inl h
  · simpa using h

/-- Items that are put in one after the other were there before or are among them. -/
theorem mem_of_mem_foldl_insertNew {start items : List Value} {w : Value}
    (h : w ∈ items.foldl insertNew start) : w ∈ start ∨ w ∈ items := by
  induction items generalizing start with
  | nil => exact Or.inl h
  | cons v items ih =>
    rcases ih h with h | h
    · rcases mem_of_mem_insertNew h with h | rfl
      · exact Or.inl h
      · exact Or.inr (by simp)
    · exact Or.inr (by simp [h])

/-- Nothing new comes in. -/
theorem mem_of_mem_distinct {items : List Value} {w : Value} (h : w ∈ distinct items) :
    w ∈ items := by
  rcases mem_of_mem_foldl_insertNew h with h | h
  · cases h
  · exact h

/-- A set of the given elements. -/
def setOf (items : List Value) : Value :=
  set (distinct items)

end CellMarshal.Value
