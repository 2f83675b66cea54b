import CellMarshal.Proofs.Decimal.Whole

/-!
# The order of whole numbers as doubles

Below `2 ^ 53` integers and the doubles that they are turned into are in the same order, and equal
integers alone give equal doubles. The comparison of two doubles looks at the signs, then at the
exponents and then at the significands; as the significands of whole numbers are shifted to 53 bits,
the greater exponent belongs to the greater number (`compare_shiftLeft`). Main statements:
`compare_of_isInteger`, `ofInt_lt_ofInt_iff` and `ofInt_beq_ofInt_iff`.
-/

namespace CellMarshal.Decimal

open Float.Model Float.Model.UnpackedFloat

variable {m n j k : Nat} {a b e z : Int} {s t : Sign} {u v : UnpackedFloat}

/-! ## Significands and exponents -/

/-- No zero is shifted to 53 bits. -/
theorem IsNormal.pos_of_shiftLeft (h : IsNormal (m <<< k) e) : 0 < m := by
  apply Nat.pos_of_ne_zero
  rintro rfl
  exact absurd h.pos (by simp)

/-- The logarithm of a significand and the length of its shift to 53 bits add up to 52. -/
theorem IsNormal.log2_add (h : IsNormal (m <<< k) e) : m.log2 + k = 52 := by
  rw [← log2_shiftLeft h.pos_of_shiftLeft, h.log2_eq]

/-- A number with a smaller logarithm is less. -/
theorem lt_of_log2_lt (h : m.log2 < n.log2) : m < n := by
  have hn : n ≠ 0 := by
    rintro rfl
    cases h
  calc m < 2 ^ (m.log2 + 1) := Nat.lt_log2_self
    _ ≤ 2 ^ n.log2 := Nat.pow_le_pow_right (by decide) h
    _ ≤ n := Nat.log2_self_le hn

/-- Shifted to 53 bits, whole numbers compare by their exponents first. -/
theorem compare_shiftLeft (hm : IsNormal (m <<< j) (-j)) (hn : IsNormal (n <<< k) (-k)) :
    (compare (-(j : Int)) (-(k : Int))).then (compare (m <<< j) (n <<< k)) = compare m n := by
  have hlogm := hm.log2_add
  have hlogn := hn.log2_add
  rcases Nat.lt_trichotomy j k with h | rfl | h
  · have hexponent : compare (-(j : Int)) (-(k : Int)) = .gt := Int.compare_eq_gt.2 (by omega)
    have hgt : n < m := lt_of_log2_lt (by omega)
    rw [hexponent, Nat.compare_eq_gt.2 hgt]
    rfl
  · have hmono : StrictMono fun i : Nat => i <<< j := fun m n h => by
      simpa [Nat.shiftLeft_eq] using h
    rw [Int.compare_eq_eq.2 rfl]
    show compare (m <<< j) (n <<< j) = compare m n
    rw [← cmp_eq_compare, ← cmp_eq_compare]
    exact hmono.cmp_map_eq m n
  · have hexponent : compare (-(j : Int)) (-(k : Int)) = .lt := Int.compare_eq_lt.2 (by omega)
    have hlt : m < n := lt_of_log2_lt (by omega)
    rw [hexponent, Nat.compare_eq_lt.2 hlt]
    rfl

/-! ## Integers -/

/-- Unpacked, a double that stands for an integer: a zero, or a whole number above zero with its
sign. -/
inductive IsInteger : Int → UnpackedFloat → Prop
  | zero (s : Sign) : IsInteger 0 (.zero s)
  | whole {s : Sign} {n : Nat} {u : UnpackedFloat} (h : IsWhole s n u) : IsInteger (s.apply n) u

/-- The whole number that a double stands for is above zero. -/
theorem IsWhole.pos (h : IsWhole s n u) : 0 < n := by
  obtain ⟨k, hk⟩ := h
  exact hk.pos_of_shiftLeft

/-- Integers are finite. -/
theorem IsInteger.isFinite (h : IsInteger z u) : u.isFinite = true := by
  rcases h with _ | ⟨⟨k, hk⟩⟩
  · rfl
  · rfl

/-- A sign tells on which side of zero a number is. -/
theorem compare_zero_apply (hn : 0 < n) (s : Sign) :
    compare 0 (s.apply n) = match s with | .positive => .lt | .negative => .gt := by
  cases s with
  | positive => exact Int.compare_eq_lt.2 (Int.natCast_pos.2 hn)
  | negative => exact Int.compare_eq_gt.2 (Int.neg_neg_of_pos (Int.natCast_pos.2 hn))

/-- A number with a sign lies on its side of zero. -/
theorem compare_apply_zero (hn : 0 < n) (s : Sign) :
    compare (s.apply n) 0 = match s with | .positive => .gt | .negative => .lt := by
  cases s with
  | positive => exact Int.compare_eq_gt.2 (Int.natCast_pos.2 hn)
  | negative => exact Int.compare_eq_lt.2 (Int.neg_neg_of_pos (Int.natCast_pos.2 hn))

/-- Naturals compare as integers as they do among themselves. -/
theorem compare_natCast (m n : Nat) : compare (m : Int) n = compare m n := by
  rw [← cmp_eq_compare, ← cmp_eq_compare]
  exact Nat.strictMono_cast.cmp_map_eq m n

/-- Below zero the order of naturals is turned round. -/
theorem compare_neg_natCast (m n : Nat) : compare (-m : Int) (-n) = (compare m n).swap := by
  have hanti : StrictAnti fun n : Nat => -(n : Int) := fun m n h => by
    dsimp only
    omega
  rw [← cmp_eq_compare, ← cmp_eq_compare, cmp_swap]
  exact hanti.cmp_map_eq m n

/-- Whole numbers above zero compare by their signs, and in the same way or the other way round
where they have the same one. -/
theorem compare_of_isWhole (hm : IsWhole s m u) (hn : IsWhole t n v) :
    u.compare v = some (compare (s.apply m) (t.apply n)) := by
  have hmpos : (0 : Int) < m := Int.natCast_pos.2 hm.pos
  have hnpos : (0 : Int) < n := Int.natCast_pos.2 hn.pos
  obtain ⟨j, hj⟩ := hm
  obtain ⟨k, hk⟩ := hn
  have hshift := compare_shiftLeft hj hk
  cases s with
  | positive =>
    cases t with
    | positive => exact congrArg some (hshift.trans (compare_natCast m n).symm)
    | negative =>
      have hgt : -(n : Int) < m := by omega
      exact congrArg some (Int.compare_eq_gt.2 hgt).symm
  | negative =>
    cases t with
    | positive =>
      have hlt : -(m : Int) < n := by omega
      exact congrArg some (Int.compare_eq_lt.2 hlt).symm
    | negative =>
      have hswap := congrArg Ordering.swap hshift
      exact congrArg some (hswap.trans (compare_neg_natCast m n).symm)

/-- **Doubles that stand for integers compare as the integers do.** -/
theorem compare_of_isInteger (ha : IsInteger a u) (hb : IsInteger b v) :
    u.compare v = some (compare a b) := by
  rcases ha with s | @⟨s, m, _, hm⟩
  · rcases hb with t | @⟨t, n, _, hn⟩
    · rfl
    · rw [compare_zero_apply hn.pos]
      obtain ⟨k, hk⟩ := hn
      cases t <;> rfl
  · rcases hb with t | @⟨t, n, _, hn⟩
    · rw [compare_apply_zero hm.pos]
      obtain ⟨j, hj⟩ := hm
      cases s <;> rfl
    · exact compare_of_isWhole hm hn

/-! ## Doubles -/

/-- An integer below `2 ^ 53` is what the double that it is turned into stands for. -/
theorem isInteger_ofInt (h : z.natAbs < 2 * Binary.fractionSize) :
    IsInteger z (Float.ofInt z).toModel.unpack := by
  rcases z with (_ | n) | n
  · exact .zero .positive
  · exact .whole (isWhole_ofNat n.succ_pos h)
  · exact .whole (isWhole_neg (isWhole_ofNat n.succ_pos h))

/-- Integers of up to 53 bits are finite doubles. -/
theorem isFinite_ofInt (h : z.natAbs < 2 * Binary.fractionSize) :
    (Float.ofInt z).isFinite = true :=
  (isInteger_ofInt h).isFinite

/-- **As doubles, integers below `2 ^ 53` are in their own order.** -/
theorem ofInt_lt_ofInt_iff (ha : a.natAbs < 2 * Binary.fractionSize)
    (hb : b.natAbs < 2 * Binary.fractionSize) : Float.ofInt a < Float.ofInt b ↔ a < b := by
  have hcompare := compare_of_isInteger (isInteger_ofInt ha) (isInteger_ofInt hb)
  show decide ((UnpackedFloat.compare _ _ == some .lt) = true) = true ↔ a < b
  rw [hcompare, decide_eq_true_iff, beq_iff_eq, Option.some_inj, Int.compare_eq_lt]

/-- Integers of up to 53 bits are below zero exactly if their doubles are. -/
theorem ofInt_lt_zero_iff (h : z.natAbs < 2 * Binary.fractionSize) :
    Float.ofInt z < 0 ↔ z < 0 := by
  have hzero : (0 : Float) = Float.ofInt 0 := rfl
  rw [hzero, ofInt_lt_ofInt_iff h (by decide)]

/-- **As doubles, integers below `2 ^ 53` are equal to themselves alone.** -/
theorem ofInt_beq_ofInt_iff (ha : a.natAbs < 2 * Binary.fractionSize)
    (hb : b.natAbs < 2 * Binary.fractionSize) :
    (Float.ofInt a == Float.ofInt b) = true ↔ a = b := by
  have hcompare := compare_of_isInteger (isInteger_ofInt ha) (isInteger_ofInt hb)
  show (UnpackedFloat.compare _ _ == some .eq) = true ↔ a = b
  rw [hcompare, beq_iff_eq, Option.some_inj, Int.compare_eq_eq]

end CellMarshal.Decimal
