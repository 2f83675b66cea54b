/-!
# Tables

A `Table` maps keys to entries; it is a list of pairs in which the first pair of a key counts. Keys
stay where they were first put. Main statements: what each operation does to a look-up
(`find?_insert_self`, `find?_insert_of_ne`, `find?_modify_self`, `find?_modify_of_ne`,
`find?_erase_self`, `find?_erase_of_ne`, and for any key `find?_insert`, `find?_modify`,
`find?_erase`).
-/

namespace CellMarshal

/-- A table from keys to entries. -/
structure Table (κ α : Type) where
  pairs : List (κ × α) := []

namespace Table

variable {κ α : Type} [DecidableEq κ]

/-! ## Operations on pairs -/

/-- The entry of the first pair with a key. -/
def findPair (k : κ) : List (κ × α) → Option α
  | [] => none
  | p :: ps => if p.1 = k then some p.2 else findPair k ps

/-- The pairs with the entry of a key replaced, or added at the end. -/
def insertPair (k : κ) (x : α) : List (κ × α) → List (κ × α)
  | [] => [(k, x)]
  | p :: ps => if p.1 = k then (k, x) :: ps else p :: insertPair k x ps

/-- The pairs with the entry of a key changed, where it has one. -/
def modifyPair (k : κ) (f : α → α) : List (κ × α) → List (κ × α)
  | [] => []
  | p :: ps => if p.1 = k then (p.1, f p.2) :: ps else p :: modifyPair k f ps

/-! ## Operations -/

/-- The entry of a key. -/
def find? (t : Table κ α) (k : κ) : Option α :=
  findPair k t.pairs

/-- Whether a key has an entry. -/
def contains (t : Table κ α) (k : κ) : Bool :=
  (t.find? k).isSome

/-- The table with an entry for a key. -/
def insert (t : Table κ α) (k : κ) (x : α) : Table κ α :=
  ⟨insertPair k x t.pairs⟩

/-- The table with the entry of a key changed. -/
def modify (t : Table κ α) (k : κ) (f : α → α) : Table κ α :=
  ⟨modifyPair k f t.pairs⟩

/-- The table without a key. -/
def erase (t : Table κ α) (k : κ) : Table κ α :=
  ⟨t.pairs.filter fun p => p.1 ≠ k⟩

/-- The number of pairs. -/
def size (t : Table κ α) : Nat :=
  t.pairs.length

/-- The keys, in order. -/
def keys (t : Table κ α) : List κ :=
  t.pairs.map (·.1)

/-! ## Look-ups -/

/-- What is put under a key is found there. -/
@[simp] theorem find?_insert_self (t : Table κ α) (k : κ) (x : α) :
    (t.insert k x).find? k = some x := by
  obtain ⟨ps⟩ := t
  simp only [find?, insert]
  induction ps with
  | nil => simp [insertPair, findPair]
  | cons p ps ih =>
    by_cases h : p.1 = k
    · simp [insertPair, findPair, h]
    · simp [insertPair, findPair, h, ih]

/-- What is put under a key concerns no other one. -/
theorem find?_insert_of_ne (t : Table κ α) {k l : κ} (x : α) (h : l ≠ k) :
    (t.insert k x).find? l = t.find? l := by
  obtain ⟨ps⟩ := t
  simp only [find?, insert]
  induction ps with
  | nil => simp [insertPair, findPair, Ne.symm h]
  | cons p ps ih =>
    by_cases hp : p.1 = k
    · simp [insertPair, findPair, hp, Ne.symm h]
    · by_cases hl : p.1 = l
      · simp [insertPair, findPair, hl, h]
      · simp [insertPair, findPair, hp, hl, ih]

/-- What is changed under a key is found there as changed. -/
theorem find?_modify_self (t : Table κ α) (k : κ) (f : α → α) :
    (t.modify k f).find? k = (t.find? k).map f := by
  obtain ⟨ps⟩ := t
  simp only [find?, modify]
  induction ps with
  | nil => rfl
  | cons p ps ih =>
    by_cases h : p.1 = k
    · simp [modifyPair, findPair, h]
    · simp [modifyPair, findPair, h, ih]

/-- A change under a key concerns no other one. -/
theorem find?_modify_of_ne (t : Table κ α) {k l : κ} (f : α → α) (h : l ≠ k) :
    (t.modify k f).find? l = t.find? l := by
  obtain ⟨ps⟩ := t
  simp only [find?, modify]
  induction ps with
  | nil => rfl
  | cons p ps ih =>
    by_cases hp : p.1 = k
    · simp [modifyPair, findPair, hp, Ne.symm h]
    · by_cases hl : p.1 = l
      · simp [modifyPair, findPair, hl, h]
      · simp [modifyPair, findPair, hp, hl, ih]

/-- Nothing is found under a key that was erased. -/
@[simp] theorem find?_erase_self (t : Table κ α) (k : κ) : (t.erase k).find? k = none := by
  obtain ⟨ps⟩ := t
  simp only [find?, erase]
  induction ps with
  | nil => rfl
  | cons p ps ih =>
    by_cases h : p.1 = k
    · simpa [h] using ih
    · simp only [ne_eq, h, not_false_eq_true, decide_true, List.filter_cons_of_pos, findPair,
        ↓reduceIte]
      exact ih

/-- Erasing a key does not concern any other one. -/
theorem find?_erase_of_ne (t : Table κ α) {k l : κ} (h : l ≠ k) :
    (t.erase k).find? l = t.find? l := by
  obtain ⟨ps⟩ := t
  simp only [find?, erase]
  induction ps with
  | nil => rfl
  | cons p ps ih =>
    by_cases hp : p.1 = k
    · have : p.1 ≠ l := hp ▸ Ne.symm h
      simp only [ne_eq, hp, not_true_eq_false, decide_false, Bool.false_eq_true,
        not_false_eq_true, List.filter_cons_of_neg, findPair]
      rw [if_neg (Ne.symm h)]
      exact ih
    · simp only [ne_eq, hp, not_false_eq_true, decide_true, List.filter_cons_of_pos, findPair]
      split
      · rfl
      · exact ih

/-! ## Look-ups of any key -/

/-- After something was put under a key, it is found there, and under the others what was before. -/
theorem find?_insert (t : Table κ α) (k l : κ) (x : α) :
    (t.insert k x).find? l = if l = k then some x else t.find? l := by
  by_cases h : l = k
  · rw [if_pos h, h, find?_insert_self]
  · rw [if_neg h, find?_insert_of_ne t x h]

/-- After a change under a key, it is found there, and under the others what was before. -/
theorem find?_modify (t : Table κ α) (k l : κ) (f : α → α) :
    (t.modify k f).find? l = if l = k then (t.find? l).map f else t.find? l := by
  by_cases h : l = k
  · rw [if_pos h, h, find?_modify_self]
  · rw [if_neg h, find?_modify_of_ne t f h]

/-- After a key was erased, nothing is found there, and under the others what was before. -/
theorem find?_erase (t : Table κ α) (k l : κ) :
    (t.erase k).find? l = if l = k then none else t.find? l := by
  by_cases h : l = k
  · rw [if_pos h, h, find?_erase_self]
  · rw [if_neg h, find?_erase_of_ne t h]

end Table

end CellMarshal
