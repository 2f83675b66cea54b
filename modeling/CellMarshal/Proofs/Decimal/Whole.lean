import CellMarshal.Decimal.Binary
import CellMarshal.Decimal.Whole
import Mathlib

/-!
# Whole numbers as doubles

A whole number below `2 ^ 53` fits in the significand of a double, so that turning it into a double
and taking the whole part gives it back. The proof follows the unpacked form of the double: shifted
to 53 bits, the number is a significand that rounding leaves alone (`roundWithAccuracy_shiftLeft`)
and that packing keeps (`unpack_pack`), and `IsWhole` says so of the double that `Float.ofNat`
makes. Main statements: `wholePart_ofInt` and `wholePart_ofInt_of_le`.
-/

namespace CellMarshal.Decimal

open Float.Model Float.Model.UnpackedFloat

variable {m n : Nat} {e : Int} {s : Sign} {u : UnpackedFloat} {x : Float}

/-! ## Significands of 53 bits -/

/-- A significand of 53 bits and an exponent that a double can have with it. -/
structure IsNormal (m : Nat) (e : Int) : Prop where
  /-- The significand has 53 bits. -/
  log2_eq : m.log2 = 52
  /-- The exponent is at least the smallest one. -/
  le_exponent : -1074 ≤ e
  /-- The exponent is at most the largest one. -/
  exponent_le : e ≤ 971

/-- A normal significand is not zero. -/
theorem IsNormal.pos (h : IsNormal m e) : 0 < m := by
  apply Nat.pos_of_ne_zero
  rintro rfl
  exact absurd h.log2_eq (by decide)

/-- A normal significand has 53 bits. -/
theorem IsNormal.bounds (h : IsNormal m e) :
    Binary.fractionSize ≤ m ∧ m < 2 * Binary.fractionSize := by
  have hne : m ≠ 0 := by have := h.pos; omega
  have hlog := (Nat.log2_eq_iff hne).1 h.log2_eq
  simp [Binary.fractionSize]
  omega

/-- A shift to the left adds its length to the logarithm. -/
theorem log2_shiftLeft (hm : 0 < m) (k : Nat) : (m <<< k).log2 = m.log2 + k := by
  induction k with
  | zero => rfl
  | succ k ih =>
    have hne : m <<< k ≠ 0 := by simp; omega
    rw [Nat.shiftLeft_succ, Nat.log2_two_mul hne, ih, Nat.add_assoc]

/-! ## Rounding -/

/-- A shift to the left and back loses nothing, and leaves nothing to round. -/
theorem shiftRight_shiftLeft (m k : Nat) :
    ExtendedMantissa.mk (m <<< k) false false >>> k = ExtendedMantissa.mk m false false := by
  induction k generalizing m with
  | zero => rfl
  | succ k ih =>
    show ExtendedMantissa.shiftRightOne (ExtendedMantissa.mk (m <<< (k + 1)) false false >>> k) = _
    rw [Nat.add_comm, Nat.shiftLeft_add, ih]
    simp [ExtendedMantissa.shiftRightOne, Nat.shiftLeft_succ]

/-- The exponent that a shifted significand is rounded to is the one it had before. -/
theorem targetExponent_totalExponent (h : IsNormal m e) (k : Nat) :
    Format.binary64.targetExponent (totalExponent (m <<< k) (e - k)) = e := by
  have hlower := h.le_exponent
  simp only [Format.targetExponent, totalExponent, log2_shiftLeft h.pos, h.log2_eq,
    Format.mantissaBits, Format.minExponent]
  omega

/-- Rounding starts from the significand before the shift, which is exact. -/
theorem shiftToTargetExponent_shiftLeft (h : IsNormal m e) (k : Nat) :
    shiftToTargetExponent Format.binary64 (m <<< k) (e - k) .exact = (⟨m, false, false⟩, e) := by
  have hshift : (e - (e - k)).toNat = k := by omega
  have hexp : e - k + k = e := by omega
  simp only [shiftToTargetExponent, shiftToExponent, targetExponent_totalExponent h, hshift, hexp]
  exact congrArg (·, e) (shiftRight_shiftLeft m k)

/-- Rounding drops the zero bits below a significand of 53 bits, and nothing else. -/
theorem roundWithAccuracy_shiftLeft (h : IsNormal m e) (k : Nat) :
    roundWithAccuracy Format.binary64 s (m <<< k) (e - k) .exact = .finite s m e h.pos := by
  have hagain : shiftToTargetExponent Format.binary64 m e .exact = (⟨m, false, false⟩, e) := by
    simpa using shiftToTargetExponent_shiftLeft h 0
  have hne : m ≠ 0 := by have := h.pos; omega
  rw [roundWithAccuracy, shiftToTargetExponent_shiftLeft h]
  simp [ExtendedMantissa.roundedMantissa, ExtendedMantissa.accuracy, Accuracy.roundToNearestEven,
    hagain, hne]

/-! ## Packing -/

/-- A normal number is packed into its sign, its exponent field and its fraction field. -/
theorem pack_of_isNormal (h : IsNormal m e) :
    UnpackedFloat.pack Format.binary64 (.finite s m e h.pos) =
      packComponents Format.binary64 s (BitVec.ofNat 11 (e + 1075).toNat) (BitVec.ofNat 52 m) := by
  have hlower := h.le_exponent
  have hupper := h.exponent_le
  have hbias : (e + Format.binary64.exponentBias + (52 : Nat)).toNat = (e + 1075).toNat := by
    show (e + 1023 + 52).toNat = _
    omega
  have hfinite : ¬ 2048 ≤ (e + 1075).toNat + 1 := by omega
  have hbits : 52 + 1 = Format.binary64.mantissaBits := rfl
  simp only [UnpackedFloat.pack, h.log2_eq, hbias]
  rw [if_neg hfinite, if_pos hbits]

/-- The sign that is packed is unpacked again. -/
theorem sign_packComponents (s : Sign) (field : BitVec 11) (fraction : BitVec 52) :
    Sign.ofBitVec (unpackSign (packComponents Format.binary64 s field fraction)) = s := by
  show Sign.ofBitVec ((s.toBitVec ++ field ++ fraction).extractLsb' 63 1) = s
  rw [BitVec.extractLsb'_append_eq_of_le (by decide),
    BitVec.extractLsb'_append_eq_of_le (by decide)]
  cases s <;> rfl

/-- The leading bit is not stored: put back above the fraction, it gives the significand. -/
theorem toNat_fraction (h : IsNormal m e) : (1#1 ++ BitVec.ofNat 52 m).toNat = m := by
  obtain ⟨hlow, hhigh⟩ := h.bounds
  have hmod : m % Binary.fractionSize + Binary.fractionSize = m := by
    rw [Nat.mod_eq_sub_mod hlow, Nat.mod_eq_of_lt (by omega)]
    omega
  have hlt : m % Binary.fractionSize < 2 ^ 52 := Nat.mod_lt m (by decide)
  show (1 <<< 52 ||| m % Binary.fractionSize) = m
  rw [← Nat.shiftLeft_add_eq_or_of_lt hlt]
  show Binary.fractionSize + m % Binary.fractionSize = m
  omega

/-- A normal number that is packed is unpacked again. -/
theorem unpack_pack (h : IsNormal m e) :
    (Float.Model.pack (.finite s m e h.pos)).unpack = .finite s m e h.pos := by
  have hlower := h.le_exponent
  have hupper := h.exponent_le
  have hfield : (BitVec.ofNat 11 (e + 1075).toNat).toNat = (e + 1075).toNat := by
    rw [BitVec.toNat_ofNat]
    omega
  have hfinite : BitVec.ofNat 11 (e + 1075).toNat ≠ -1#11 := by
    intro heq
    have hnat := congrArg BitVec.toNat heq
    simp [hfield] at hnat
    omega
  have hnormal : BitVec.ofNat 11 (e + 1075).toNat ≠ 0#11 := by
    intro heq
    have hnat := congrArg BitVec.toNat heq
    simp [hfield] at hnat
    omega
  have hexp : ((e + 1075).toNat : Int) - (Format.binary64.exponentBias + (52 : Nat)) = e := by
    show ((e + 1075).toNat : Int) - (1023 + 52) = e
    omega
  show UnpackedFloat.unpack Format.binary64 (UnpackedFloat.pack Format.binary64 _) = _
  rw [pack_of_isNormal h]
  simp only [UnpackedFloat.unpack, unpackExponent_packComponents, unpackMantissa_packComponents,
    sign_packComponents, hfinite, hnormal, if_false, hfield, toNat_fraction h, hexp]

/-! ## Whole numbers -/

/-- Unpacked, a double that stands for the whole number `n` above zero, with the sign `s`: the
significand is `n` shifted to 53 bits. -/
inductive IsWhole (s : Sign) (n : Nat) : UnpackedFloat → Prop
  | shifted (k : Nat) (h : IsNormal (n <<< k) (-k)) : IsWhole s n (.finite s (n <<< k) (-k) h.pos)

/-- A whole number of up to 53 bits is rounded to itself. -/
theorem isWhole_round (hpos : 0 < n) (h : n < 2 * Binary.fractionSize) :
    IsWhole s n (UnpackedFloat.round Format.binary64 s n 0) := by
  have hlog : n.log2 < 53 := (Nat.log2_lt (by omega)).2 h
  have hnormal : IsNormal (n <<< (52 - n.log2)) (-(52 - n.log2 : Nat)) := by
    refine ⟨?_, by omega, by omega⟩
    rw [log2_shiftLeft hpos]
    omega
  have htarget : Format.binary64.targetExponent (totalExponent n 0) = -(52 - n.log2 : Nat) := by
    simp only [Format.targetExponent, totalExponent, Format.mantissaBits, Format.minExponent]
    omega
  have hround : UnpackedFloat.round Format.binary64 s n 0 =
      .finite s (n <<< (52 - n.log2)) (-(52 - n.log2 : Nat)) hnormal.pos := by
    have hfixed := roundWithAccuracy_shiftLeft (s := s) hnormal 0
    simp only [UnpackedFloat.round, htarget, decreaseExponent]
    simpa using hfixed
  rw [hround]
  exact .shifted _ hnormal

/-- A whole number that is packed is unpacked again. -/
theorem unpack_pack_of_isWhole (h : IsWhole s n u) : (Float.Model.pack u).unpack = u := by
  obtain ⟨k, hk⟩ := h
  exact unpack_pack hk

/-- Multiplying a whole number by one leaves it. -/
theorem mul_one_of_isWhole (h : IsWhole s n u) :
    UnpackedFloat.mul Format.binary64 u
      (.finite .positive Binary.fractionSize (-52) (by decide)) = u := by
  obtain ⟨k, hk⟩ := h
  have hsign : s * .positive = s := by cases s <;> rfl
  have hshift : (n <<< k) * Binary.fractionSize = (n <<< k) <<< 52 := by
    rw [Nat.shiftLeft_eq _ 52]
    rfl
  rw [UnpackedFloat.mul, hsign, hshift]
  exact roundWithAccuracy_shiftLeft hk 52

/-- As a machine word, a whole number is turned into a double in one rounding. -/
theorem isWhole_toFloat (hpos : 0 < n) (h : n < 2 * Binary.fractionSize) :
    IsWhole .positive n n.toUInt64.toFloat.toModel.unpack := by
  have hword : n.toUInt64.toNat = n := by
    rw [Nat.toUInt64, UInt64.toNat_ofNat']
    simp [Binary.fractionSize] at h
    omega
  have hsign : compare (n : Int) 0 = .gt := Int.compare_eq_gt.2 (by omega)
  have hmodel : UnpackedFloat.ofUInt64 Format.binary64 n.toUInt64 =
      UnpackedFloat.round Format.binary64 .positive n 0 := by
    simp only [UnpackedFloat.ofUInt64, UnpackedFloat.ofNat, UnpackedFloat.ofInt,
      UnpackedFloat.normalize, hword, hsign, Int.toNat_natCast]
  have hround := isWhole_round (s := .positive) hpos h
  show IsWhole _ _ (Float.Model.pack (UnpackedFloat.ofUInt64 Format.binary64 n.toUInt64)).unpack
  rw [hmodel, unpack_pack_of_isWhole hround]
  exact hround

/-- `Float.ofNat` multiplies the machine word by the power of ten with exponent zero. -/
theorem isWhole_ofNat (hpos : 0 < n) (h : n < 2 * Binary.fractionSize) :
    IsWhole .positive n (Float.ofNat n).toModel.unpack := by
  have hword := isWhole_toFloat hpos h
  have hone : (Float.exactlyRepresentablePowersOfTen[0]).toModel.unpack =
      .finite .positive Binary.fractionSize (-52) (by decide) := by rfl
  have hmul : Float.ofNat n = n.toUInt64.toFloat * Float.exactlyRepresentablePowersOfTen[0] := by
    show Float.ofScientific n false 0 = _
    rw [Float.ofScientific, dif_pos ⟨h, by decide⟩]
    rfl
  rw [hmul]
  show IsWhole _ _ (Float.Model.pack (UnpackedFloat.mul Format.binary64 _ _)).unpack
  rw [hone, mul_one_of_isWhole hword, unpack_pack_of_isWhole hword]
  exact hword

/-- The negation of a whole number is whole, with the other sign. -/
theorem isWhole_neg (h : IsWhole s n x.toModel.unpack) : IsWhole (-s) n (-x).toModel.unpack := by
  have hneg : IsWhole (-s) n (UnpackedFloat.neg x.toModel.unpack) := by
    generalize x.toModel.unpack = u at h
    obtain ⟨k, hk⟩ := h
    exact .shifted k hk
  show IsWhole _ _ (Float.Model.pack (UnpackedFloat.neg x.toModel.unpack)).unpack
  rw [unpack_pack_of_isWhole hneg]
  exact hneg

/-! ## The whole part -/

/-- A whole number is cut off to itself. -/
theorem toInt_of_isWhole (h : IsWhole s n u) (lo hi : Int) : toInt lo hi u = s.apply n := by
  obtain ⟨k, hk⟩ := h
  have hdown : (-(k : Int)).toNat = 0 := by omega
  have hup : (0 - -(k : Int)).toNat = k := by omega
  simp only [toInt, roundToInt, decreaseExponent, shiftToExponent, Int.sub_zero, hdown,
    Nat.shiftLeft_zero, Int.natCast_zero, hup, ExtendedMantissa.ofMantissaAndAccuracy,
    shiftRight_shiftLeft]

/-- A whole number above zero is converted to itself in 64 bits. -/
theorem toNat_toUInt64_of_isWhole (h : IsWhole .positive n x.toModel.unpack)
    (hn : n < 2 * Binary.fractionSize) : x.toUInt64.toNat = n := by
  have hword : x.toUInt64 =
      UInt64.ofNatClamp (toInt 0 (UInt64.size - 1) x.toModel.unpack).toNat := rfl
  have hsize : n < UInt64.size := by
    simp [Binary.fractionSize, UInt64.size] at hn ⊢
    omega
  rw [hword, toInt_of_isWhole h]
  show (UInt64.ofNatClamp n).toNat = n
  rw [UInt64.ofNatClamp, dif_pos hsize]
  rfl

/-- A whole number is below zero exactly if its sign is negative. -/
theorem lt_zero_iff_of_isWhole (h : IsWhole s n x.toModel.unpack) : x < 0 ↔ s = .negative := by
  have hzero : (0 : Float).toModel.unpack = .zero .positive := by rfl
  show decide (UnpackedFloat.lt x.toModel.unpack (0 : Float).toModel.unpack = true) = true ↔ _
  rw [decide_eq_true_iff, hzero]
  generalize x.toModel.unpack = u at h
  obtain ⟨k, hk⟩ := h
  cases s <;> simp [UnpackedFloat.lt, UnpackedFloat.compare]

/-- The whole part of a whole number is the number. -/
theorem wholePart_of_isWhole (h : IsWhole s n x.toModel.unpack)
    (hn : n < 2 * Binary.fractionSize) : wholePart x = s.apply n := by
  cases s with
  | positive =>
    have hnot : ¬ x < 0 := by simp [lt_zero_iff_of_isWhole h]
    rw [wholePart, if_neg hnot, toNat_toUInt64_of_isWhole h hn]
    rfl
  | negative =>
    rw [wholePart, if_pos ((lt_zero_iff_of_isWhole h).2 rfl),
      toNat_toUInt64_of_isWhole (isWhole_neg h) hn]
    rfl

/-- **Whole numbers below `2 ^ 53` are exact**: each is the whole part of the double that it is
turned into. -/
theorem wholePart_ofInt {z : Int} (h : z.natAbs < 2 * Binary.fractionSize) :
    wholePart (Float.ofInt z) = z := by
  rcases z with (_ | n) | n
  · decide +kernel
  · have hwhole := isWhole_ofNat n.succ_pos h
    exact wholePart_of_isWhole hwhole h
  · have hwhole := isWhole_neg (isWhole_ofNat n.succ_pos h)
    exact wholePart_of_isWhole hwhole h

/-- `2 ^ 53` and its negative are exact as well. -/
theorem wholePart_ofInt_of_le {z : Int} (h : z.natAbs ≤ 2 * Binary.fractionSize) :
    wholePart (Float.ofInt z) = z := by
  rcases Nat.lt_or_eq_of_le h with hlt | heq
  · exact wholePart_ofInt hlt
  · rcases Int.natAbs_eq_iff.1 heq with rfl | rfl
    · decide +kernel
    · decide +kernel

end CellMarshal.Decimal
