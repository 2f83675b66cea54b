import CellMarshal.Proofs.Value.Equality
import Mathlib

/-!
# Cells as keys

A table that finds its keys by a hash rests on two laws: equality is an equivalence relation, and
equal keys have equal fingerprints. Cells keep them up to two numbers. Not-a-number differs from
itself, and with it every cell in which it occurs, at whatever depth; the two zeros are equal, but
their bits, which the fingerprint counts, are not. Nothing else goes wrong. Equality is symmetric
and transitive on all cells, it is reflexive where no number is not-a-number, and two equal cells
have one fingerprint exactly if they have their negative zeros at the same places.

The other way round a fingerprint determines the cell, since the length of every list in it stands
before the list. Main statements: `same_self_iff`, `fingerprint_injective`,
`fingerprint_eq_iff_of_same`, `key_laws` and `exists_lawless_keys` (the two numbers).
-/

namespace CellMarshal

/-! ## Zeros and not-a-number -/

/-- Whether a number is the zero with a sign, which equals the other zero and has other bits. -/
def isNegativeZero (x : Float) : Bool :=
  x.toBits == 0x8000000000000000

/-- A number is equal to itself unless it is not-a-number. -/
theorem beq_self_iff {x : Float} : (x == x) = true ↔ x.isNaN = false := by
  rw [Float.isNaN_eq_decide_eq_nan, decide_eq_false_iff_not]
  exact Float.beq_self_iff

/-- **Equal numbers have equal bits, unless they are the two zeros.** -/
theorem toBits_eq_iff_of_beq {x y : Float} (h : (x == y) = true) :
    x.toBits = y.toBits ↔ isNegativeZero x = isNegativeZero y := by
  obtain ⟨-, -, rfl | ⟨rfl, rfl⟩ | ⟨rfl, rfl⟩⟩ := Float.beq_iff_ne_nan_and_eq.1 h
  · exact iff_of_true rfl rfl
  · decide
  · decide

namespace Cell

/-! ## The numbers in a cell -/

mutual

/-- The numbers in a cell, row by row. -/
def numbers : Cell → List Float
  | number x => [x]
  | grid rows => numbersRows rows
  | bag items => numbersRow items
  | _ => []

/-- The numbers in some cells. -/
def numbersRow : List Cell → List Float
  | [] => []
  | c :: row => numbers c ++ numbersRow row

/-- The numbers in some rows. -/
def numbersRows : List (List Cell) → List Float
  | [] => []
  | row :: rows => numbersRow row ++ numbersRows rows

end

/-! ## Equality -/

mutual

/-- **A cell is equal to itself where none of its numbers is not-a-number.** -/
theorem same_self_iff (c : Cell) : c.same c = true ↔ ∀ x ∈ c.numbers, x.isNaN = false := by
  cases c with
  | number x =>
    rw [same, numbers, List.forall_mem_singleton]
    exact beq_self_iff
  | grid rows =>
    rw [same_grid, numbers]
    exact sameRows_self_iff rows
  | bag items =>
    rw [same_bag, numbers]
    exact sameRow_self_iff items
  | _ => simp [same, numbers]

/-- A row is equal to itself where none of its numbers is not-a-number. -/
theorem sameRow_self_iff (r : List Cell) :
    sameRow r r = true ↔ ∀ x ∈ numbersRow r, x.isNaN = false := by
  cases r with
  | nil => simp [sameRow, numbersRow]
  | cons c r =>
    rw [sameRow, numbersRow, Bool.and_eq_true, List.forall_mem_append, same_self_iff c,
      sameRow_self_iff r]

/-- Rows are equal to themselves where none of their numbers is not-a-number. -/
theorem sameRows_self_iff (rs : List (List Cell)) :
    sameRows rs rs = true ↔ ∀ x ∈ numbersRows rs, x.isNaN = false := by
  cases rs with
  | nil => simp [sameRows, numbersRows]
  | cons r rs =>
    rw [sameRows, numbersRows, Bool.and_eq_true, List.forall_mem_append, sameRow_self_iff r,
      sameRows_self_iff rs]

end

/-- Equal rows have one length. -/
theorem length_eq_of_sameRow {r s : List Cell} (h : sameRow r s = true) : r.length = s.length := by
  induction r generalizing s with
  | nil =>
    cases s with
    | nil => rfl
    | cons => cases h
  | cons c r ih =>
    cases s with
    | nil => cases h
    | cons d s =>
      rw [sameRow, Bool.and_eq_true] at h
      rw [List.length_cons, List.length_cons, ih h.2]

/-- Equal lists of rows have one length. -/
theorem length_eq_of_sameRows {rs ss : List (List Cell)} (h : sameRows rs ss = true) :
    rs.length = ss.length := by
  induction rs generalizing ss with
  | nil =>
    cases ss with
    | nil => rfl
    | cons => cases h
  | cons r rs ih =>
    cases ss with
    | nil => cases h
    | cons s ss =>
      rw [sameRows, Bool.and_eq_true] at h
      rw [List.length_cons, List.length_cons, ih h.2]

/-! ## Fingerprints -/

mutual

/-- A fingerprint is not the beginning of another one: the kind tells where to look for its end. -/
theorem fingerprint_append_inj (c d : Cell) (s t : List Token)
    (h : c.fingerprint ++ s = d.fingerprint ++ t) : c = d ∧ s = t := by
  cases c <;> cases d
  -- two kinds differ in the first token, so only pairs of one kind are left
  all_goals try (simp [fingerprint] at h; done)
  case number.number x y =>
    simp only [fingerprint, List.cons_append, List.nil_append, List.cons.injEq, Token.bits.injEq,
      true_and] at h
    exact ⟨congrArg number (Float.toBits_inj.1 h.1), h.2⟩
  case grid.grid rows other =>
    simp only [fingerprint_grid, List.cons_append, List.cons.injEq, Token.size.injEq,
      true_and] at h
    obtain ⟨heq, hrest⟩ := fingerprintRows_append_inj rows other s t h.1 h.2
    exact ⟨congrArg grid heq, hrest⟩
  case bag.bag items other =>
    simp only [fingerprint_bag, List.cons_append, List.cons.injEq, Token.size.injEq,
      true_and] at h
    obtain ⟨heq, hrest⟩ := fingerprintRow_append_inj items other s t h.1 h.2
    exact ⟨congrArg bag heq, hrest⟩
  -- the others hold no numbers and no cells, and their tokens are what they hold
  all_goals simp_all [fingerprint]

/-- Of two rows of one length the fingerprints end at the same place. -/
theorem fingerprintRow_append_inj (r r' : List Cell) (s t : List Token)
    (hlen : r.length = r'.length) (h : fingerprintRow r ++ s = fingerprintRow r' ++ t) :
    r = r' ∧ s = t := by
  cases r <;> cases r'
  case nil.nil => exact ⟨rfl, h⟩
  case cons.cons c r d r' =>
    rw [fingerprintRow, fingerprintRow, List.append_assoc, List.append_assoc] at h
    obtain ⟨rfl, hrow⟩ := fingerprint_append_inj c d _ _ h
    obtain ⟨rfl, hrest⟩ := fingerprintRow_append_inj r r' s t (Nat.succ.inj hlen) hrow
    exact ⟨rfl, hrest⟩
  all_goals cases hlen

/-- Of two lists of as many rows the fingerprints end at the same place: each row stands after its
length. -/
theorem fingerprintRows_append_inj (rs rs' : List (List Cell)) (s t : List Token)
    (hlen : rs.length = rs'.length) (h : fingerprintRows rs ++ s = fingerprintRows rs' ++ t) :
    rs = rs' ∧ s = t := by
  cases rs <;> cases rs'
  case nil.nil => exact ⟨rfl, h⟩
  case cons.cons r rs r' rs' =>
    simp only [fingerprintRows, List.cons_append, List.append_assoc, List.cons.injEq,
      Token.size.injEq] at h
    obtain ⟨rfl, hrows⟩ := fingerprintRow_append_inj r r' _ _ h.1 h.2
    obtain ⟨rfl, hrest⟩ := fingerprintRows_append_inj rs rs' s t (Nat.succ.inj hlen) hrows
    exact ⟨rfl, hrest⟩
  all_goals cases hlen

end

/-- **A fingerprint determines the cell.** -/
theorem fingerprint_injective {c d : Cell} (h : c.fingerprint = d.fingerprint) : c = d :=
  (fingerprint_append_inj c d [] [] (by rw [h])).1

/-- The places of the negative zeros among the numbers of a cell. -/
def negativeZeros (c : Cell) : List Bool :=
  c.numbers.map isNegativeZero

mutual

/-- Equal cells with their negative zeros at the same places have one fingerprint. As they have as
many numbers, the places in what follows them are the same as well. -/
theorem fingerprint_eq_append (c d : Cell) (h : c.same d = true) (p q : List Bool)
    (hz : c.numbers.map isNegativeZero ++ p = d.numbers.map isNegativeZero ++ q) :
    c.fingerprint = d.fingerprint ∧ p = q := by
  -- equal cells are of one kind
  cases c <;> cases d <;> first | (cases h; done) | skip
  case number.number x y =>
    simp only [numbers, List.map_cons, List.map_nil, List.cons_append, List.nil_append,
      List.cons.injEq] at hz
    rw [fingerprint, fingerprint, (toBits_eq_iff_of_beq h).2 hz.1]
    exact ⟨rfl, hz.2⟩
  case grid.grid rows other =>
    rw [numbers, numbers] at hz
    obtain ⟨hrows, hrest⟩ := fingerprintRows_eq_append rows other h p q hz
    rw [fingerprint_grid, fingerprint_grid, length_eq_of_sameRows h, hrows]
    exact ⟨rfl, hrest⟩
  case bag.bag items other =>
    rw [numbers, numbers] at hz
    obtain ⟨hitems, hrest⟩ := fingerprintRow_eq_append items other h p q hz
    rw [fingerprint_bag, fingerprint_bag, length_eq_of_sameRow h, hitems]
    exact ⟨rfl, hrest⟩
  all_goals simp_all [same, numbers, fingerprint]

/-- Equal rows with their negative zeros at the same places have one fingerprint. -/
theorem fingerprintRow_eq_append (r s : List Cell) (h : sameRow r s = true) (p q : List Bool)
    (hz : (numbersRow r).map isNegativeZero ++ p = (numbersRow s).map isNegativeZero ++ q) :
    fingerprintRow r = fingerprintRow s ∧ p = q := by
  cases r <;> cases s
  case nil.nil => exact ⟨rfl, hz⟩
  case cons.cons c r d s =>
    rw [sameRow, Bool.and_eq_true] at h
    simp only [numbersRow, List.map_append, List.append_assoc] at hz
    obtain ⟨hcell, hz⟩ := fingerprint_eq_append c d h.1 _ _ hz
    obtain ⟨hrow, hrest⟩ := fingerprintRow_eq_append r s h.2 p q hz
    rw [fingerprintRow, fingerprintRow, hcell, hrow]
    exact ⟨rfl, hrest⟩
  all_goals cases h

/-- Equal lists of rows with their negative zeros at the same places have one fingerprint. -/
theorem fingerprintRows_eq_append (rs ss : List (List Cell)) (h : sameRows rs ss = true)
    (p q : List Bool)
    (hz : (numbersRows rs).map isNegativeZero ++ p = (numbersRows ss).map isNegativeZero ++ q) :
    fingerprintRows rs = fingerprintRows ss ∧ p = q := by
  cases rs <;> cases ss
  case nil.nil => exact ⟨rfl, hz⟩
  case cons.cons r rs s ss =>
    rw [sameRows, Bool.and_eq_true] at h
    simp only [numbersRows, List.map_append, List.append_assoc] at hz
    obtain ⟨hrow, hz⟩ := fingerprintRow_eq_append r s h.1 _ _ hz
    obtain ⟨hrows, hrest⟩ := fingerprintRows_eq_append rs ss h.2 p q hz
    rw [fingerprintRows, fingerprintRows, length_eq_of_sameRow h.1, hrow, hrows]
    exact ⟨rfl, hrest⟩
  all_goals cases h

end

/-- **Equal cells have one fingerprint exactly if their negative zeros are at the same places.** -/
theorem fingerprint_eq_iff_of_same {c d : Cell} (h : c.same d = true) :
    c.fingerprint = d.fingerprint ↔ c.negativeZeros = d.negativeZeros := by
  constructor
  · intro hprint
    rw [fingerprint_injective hprint]
  · intro hz
    rw [negativeZeros, negativeZeros] at hz
    exact (fingerprint_eq_append c d h [] [] (by rw [hz])).1

/-! ## The laws of keys -/

/-- **What cells keep of the laws of keys.** Equality is reflexive exactly on the cells without
not-a-number, and symmetric and transitive on all; equal cells have one fingerprint exactly if they
have their negative zeros at the same places; cells with one fingerprint are equal unless they hold
not-a-number. -/
theorem key_laws (a b c : Cell) :
    (a.same a = true ↔ ∀ x ∈ a.numbers, x.isNaN = false) ∧
      (a.same b = true → b.same a = true) ∧
      (a.same b = true → b.same c = true → a.same c = true) ∧
      (a.same b = true → (a.fingerprint = b.fingerprint ↔ a.negativeZeros = b.negativeZeros)) ∧
      (a.fingerprint = b.fingerprint →
        (a.same b = true ↔ ∀ x ∈ a.numbers, x.isNaN = false)) := by
  refine ⟨same_self_iff a, same_symm a b, same_trans a b c, fingerprint_eq_iff_of_same, ?_⟩
  intro hprint
  rw [← fingerprint_injective hprint]
  exact same_self_iff a

/-- Two grids that differ in the sign of a zero, in a bag in one of their cells: they are equal, in
both directions, and have two fingerprints. -/
theorem key_laws_zeros :
    let a : Cell := .grid [[.number 1, .bag [.text "eur", .number 0]], [.missing]]
    let b : Cell := .grid [[.number 1, .bag [.text "eur", .number (-0)]], [.missing]]
    a.same b = true ∧ b.same a = true ∧ a.same a = true ∧ a.negativeZeros ≠ b.negativeZeros ∧
      a.fingerprint ≠ b.fingerprint := by
  intro a b
  obtain ⟨-, hsymm, htrans, hprint, -⟩ := key_laws a b a
  have h : a.same b = true := by decide
  have hz : a.negativeZeros ≠ b.negativeZeros := by decide
  exact ⟨h, hsymm h, htrans h (hsymm h), hz, fun heq => hz ((hprint h).1 heq)⟩

/-- Cells are not keys as they should be: not-a-number is not equal to itself, and the two zeros are
equal and have two fingerprints. -/
theorem exists_lawless_keys :
    (number (0 / 0)).same (number (0 / 0)) = false ∧ (number 0).same (number (-0)) = true ∧
      (number 0).fingerprint ≠ (number (-0)).fingerprint := by
  decide

end Cell

end CellMarshal
