import CellMarshal.Proofs.Decimal.Whole
import CellMarshal.Registry.Draft
import CellMarshal.Registry.Read
import CellMarshal.Registry.Write

/-!
# Integers through numeric converters

An integer that is written by a numeric converter for an integer type and read by it again goes
through several casts: to a double, to the type of the converter, to a double again or to a narrow
integer, and to the type once more. Each cast takes what does not fit to the nearest number that
does, and together they come to one such step: the integer is brought into the range of the type,
and into 32 bits as well where it travels in a cell of a narrow integer (`CellKind.limit`). Doubles
are exact up to `2 ^ 53`, so nothing else happens to integers of up to this magnitude. Main
statements: `integer?_cast`, `exists_carries` and `carries_within_limits`.
-/

namespace CellMarshal

open Decimal

/-! ## Integers -/

namespace Primitive

/-- The least and the greatest number of an integer type. -/
def integerRange? : Primitive → Option (Int × Int)
  | byte => some (-128, 127)
  | short => some (-32768, 32767)
  | int => some (-2147483648, 2147483647)
  | long => some (-9223372036854775808, 9223372036854775807)
  | _ => none

/-- Zero is a number of every integer type. -/
theorem zero_mem_of_integerRange? {p : Primitive} {range : Int × Int}
    (h : p.integerRange? = some range) : range.1 ≤ 0 ∧ 0 ≤ range.2 := by
  cases p <;> cases h <;> decide

end Primitive

namespace Value

/-- The number that an integer holds. -/
def integer? : Value → Option Int
  | byte n => some n.toInt
  | short n => some n.toInt
  | int n => some n.toInt
  | long n => some n.toInt
  | _ => none

variable {v : Value} {n : Int}

/-- As a double, an integer is the number that it holds. -/
theorem asNumber?_of_integer? (h : v.integer? = some n) :
    v.asNumber? = some (Float.ofInt n) := by
  cases v <;> cases h <;> rfl

/-- An integer is a value. -/
theorem ne_null_of_integer? (h : v.integer? = some n) : v ≠ .null := by
  rintro rfl
  cases h

/-- An integer is no container. -/
theorem isNested_of_integer? (h : v.integer? = some n) : v.isNested = false := by
  cases v <;> first | rfl | cases h

/-- An integer is its type and its number. -/
theorem eq_of_integer? {w : Value} (hp : v.primitive? = w.primitive?) (hv : v.integer? = some n)
    (hw : w.integer? = some n) : v = w := by
  have hnumber := hv.trans hw.symm
  cases v <;> cases hv <;> cases w <;> cases hp
  · rw [Int8.toInt_inj.1 (Option.some.inj hnumber)]
  · rw [Int16.toInt_inj.1 (Option.some.inj hnumber)]
  · rw [Int32.toInt_inj.1 (Option.some.inj hnumber)]
  · rw [Int64.toInt_inj.1 (Option.some.inj hnumber)]

end Value

/-! ## Casts -/

namespace Scalar

variable {p : Primitive} {range : Int × Int} {n : Int}

/-- **A double that is an integer is cast to the nearest number of an integer type.** -/
theorem integer?_cast (hrange : p.integerRange? = some range)
    (hn : n.natAbs ≤ 2 * Binary.fractionSize) :
    (cast p (Float.ofInt n)).primitive? = some p ∧
      (cast p (Float.ofInt n)).integer? = some (clamp range.1 range.2 n) := by
  have hexact := wholePart_ofInt_of_le hn
  cases p with
  | byte =>
    cases hrange
    have hmem := clamp_mem (show (-128 : Int) ≤ 127 by decide) n
    refine ⟨rfl, ?_⟩
    simp only [cast, Value.integer?, hexact]
    rw [Int8.toInt_ofInt_of_le (by omega) (by omega)]
  | short =>
    cases hrange
    have hmem := clamp_mem (show (-32768 : Int) ≤ 32767 by decide) n
    refine ⟨rfl, ?_⟩
    simp only [cast, Value.integer?, hexact]
    rw [Int16.toInt_ofInt_of_le (by omega) (by omega)]
  | int =>
    cases hrange
    have hmem := clamp_mem (show (-2147483648 : Int) ≤ 2147483647 by decide) n
    refine ⟨rfl, ?_⟩
    simp only [cast, Value.integer?, hexact]
    rw [Int32.toInt_ofInt_of_le (by omega) (by omega)]
  | long =>
    cases hrange
    have hmem := clamp_mem (show (-9223372036854775808 : Int) ≤ 9223372036854775807 by decide) n
    refine ⟨rfl, ?_⟩
    simp only [cast, Value.integer?, hexact]
    rw [Int64.toInt_ofInt_of_le (by omega) (by omega)]
  | _ => cases hrange

/-- A double that is an integer becomes the nearest narrow integer. -/
theorem toInt_toInteger (hn : n.natAbs ≤ 2 * Binary.fractionSize) :
    (toInteger (Float.ofInt n)).toInt = clamp (-2147483648) 2147483647 n := by
  have hmem := clamp_mem (show (-2147483648 : Int) ≤ 2147483647 by decide) n
  rw [toInteger, wholePart_ofInt_of_le hn, Int32.toInt_ofInt_of_le (by omega) (by omega)]

end Scalar

/-! ## Limits -/

/-- What comes of an integer in a cell of some kind: it is brought into a range, and into 32 bits as
well where the cell holds a narrow integer. -/
def CellKind.limit (kind : CellKind) (range : Int × Int) (n : Int) : Int :=
  if kind = .integer then clamp (-2147483648) 2147483647 (clamp range.1 range.2 n)
  else clamp range.1 range.2 n

namespace CellKind

variable {kind : CellKind} {range : Int × Int} {m n : Int}

/-- An integer that fits stays what it is. -/
theorem limit_of_mem (hrange : range.1 ≤ n ∧ n ≤ range.2)
    (hcell : kind = .integer → -2147483648 ≤ n ∧ n ≤ 2147483647) : kind.limit range n = n := by
  have hn := clamp_of_mem hrange.1 hrange.2
  unfold limit
  split
  · rename_i hk
    rw [hn, clamp_of_mem (hcell hk).1 (hcell hk).2]
  · exact hn

/-- Limits keep the order. -/
theorem limit_le_limit (h : m ≤ n) : kind.limit range m ≤ kind.limit range n := by
  simp only [limit, clamp]
  split <;> omega

/-- Integers are only brought nearer to zero. -/
theorem natAbs_limit_le (hzero : range.1 ≤ 0 ∧ 0 ≤ range.2) (n : Int) :
    (kind.limit range n).natAbs ≤ n.natAbs := by
  simp only [limit, clamp]
  split <;> omega

/-- What has been brought within the limits stays what it is. -/
theorem limit_limit (hzero : range.1 ≤ 0 ∧ 0 ≤ range.2) (n : Int) :
    kind.limit range (kind.limit range n) = kind.limit range n := by
  simp only [limit, clamp]
  split <;> omega

end CellKind

/-! ## There and back -/

namespace Scalar

variable {p : Primitive} {range : Int × Int} {kind : CellKind} {v : Value} {n : Int}

/-- As a number, an integer is written as the double of what it is cast to. -/
theorem writeNumeric_number_of_integer? (hrange : p.integerRange? = some range)
    (hv : v.integer? = some n) (hn : n.natAbs ≤ 2 * Binary.fractionSize) :
    writeNumeric p .number v = .ok (.number (Float.ofInt (clamp range.1 range.2 n))) := by
  have hcast := (integer?_cast hrange hn).2
  rw [writeNumeric_of_number (Value.asNumber?_of_integer? hv) (by simp),
    Value.asNumber?_of_integer? hcast, Option.getD_some]

/-- As a narrow integer, it is cast once more. -/
theorem writeNumeric_integer_of_integer? (hrange : p.integerRange? = some range)
    (hv : v.integer? = some n) (hn : n.natAbs ≤ 2 * Binary.fractionSize) :
    writeNumeric p .integer v =
      .ok (.integer (toInteger (Float.ofInt (clamp range.1 range.2 n)))) := by
  have hcast := (integer?_cast hrange hn).2
  rw [writeNumeric_of_integer (Value.asNumber?_of_integer? hv), Value.asNumber?_of_integer? hcast,
    Option.getD_some]

/-- A narrow integer is read as the nearest number of an integer type. -/
theorem exists_readNumeric_integer (hrange : p.integerRange? = some range) (i : Int32) :
    ∃ w, readNumeric p (.integer i) = .ok w ∧ w.primitive? = some p ∧
      w.integer? = some (clamp range.1 range.2 i.toInt) := by
  have hlow := i.le_toInt
  have hhigh := i.toInt_lt
  by_cases hp : p = .long
  · subst hp
    cases hrange
    refine ⟨.long i.toInt64, rfl, rfl, ?_⟩
    rw [Value.integer?, Int32.toInt_toInt64, clamp_of_mem (by omega) (by omega)]
  · have hsmall : i.toInt.natAbs ≤ 2 * Binary.fractionSize := by
      simp only [Binary.fractionSize]
      omega
    exact ⟨_, readNumeric_of_integer hp i, integer?_cast hrange hsmall⟩

/-- **An integer that is written and read again is brought within the limits.** -/
theorem exists_readNumeric_of_written (hrange : p.integerRange? = some range)
    (hkind : kind = .number ∨ kind = .integer) (hv : v.integer? = some n)
    (hn : n.natAbs ≤ 2 * Binary.fractionSize) :
    ∃ cell w, writeNumeric p kind v = .ok cell ∧ cell.kind = kind ∧ readNumeric p cell = .ok w ∧
      w.primitive? = some p ∧ w.integer? = some (kind.limit range n) := by
  have hzero := Primitive.zero_mem_of_integerRange? hrange
  have hclamped : (clamp range.1 range.2 n).natAbs ≤ 2 * Binary.fractionSize := by
    simp only [clamp]
    omega
  rcases hkind with rfl | rfl
  · refine ⟨_, _, writeNumeric_number_of_integer? hrange hv hn, rfl, readNumeric_of_number _ _, ?_⟩
    have hcast := integer?_cast hrange hclamped
    have hagain : clamp range.1 range.2 (clamp range.1 range.2 n) = clamp range.1 range.2 n := by
      simp only [clamp]
      omega
    rwa [hagain] at hcast
  · obtain ⟨w, hread, hp, hw⟩ := exists_readNumeric_integer hrange
      (toInteger (Float.ofInt (clamp range.1 range.2 n)))
    refine ⟨_, w, writeNumeric_integer_of_integer? hrange hv hn, rfl, hread, hp, ?_⟩
    have hlimit : clamp range.1 range.2 (clamp (-2147483648) 2147483647
        (clamp range.1 range.2 n)) = CellKind.integer.limit range n := by
      simp only [CellKind.limit, if_true, clamp]
      omega
    rw [hw, toInt_toInteger hclamped, hlimit]

end Scalar

namespace Converter

/-- Written by a converter as a cell of its kind and read by the same converter again, one value
becomes another: for all declared types, in every registry, and without a change to any arena. -/
def Carries (c : Converter) (v w : Value) : Prop :=
  ∃ cell : Cell, cell.kind = c.kind ∧
    (∀ (r : Registry) (declared : DeclType) (a : Arena),
      (r.writeWith c declared v).runOn a = (.ok cell, a)) ∧
    ∀ (r : Registry) (target : DeclType) (a : Arena), r.readWith a c target cell = .ok w

variable {c : Converter} {p : Primitive} {range : Int × Int} {v v' w w' : Value} {n : Int}

/-- What a converter carries a value to is determined. -/
theorem Carries.unique (h : c.Carries v w) (h' : c.Carries v w') : w = w' := by
  obtain ⟨cell, -, hwrite, hread⟩ := h
  obtain ⟨cell', -, hwrite', hread'⟩ := h'
  have hcell := (hwrite (Registry.stock .column) .object {}).symm.trans (hwrite' _ _ _)
  cases hcell
  have hvalue := (hread (Registry.stock .column) .object {}).symm.trans (hread' _ _ _)
  cases hvalue
  rfl

/-- A numeric converter is what its form does to numbers. -/
theorem carries_of_numeric {cell : Cell} (hform : c.form = .numeric p) (hv : v.integer? = some n)
    (hkind : c.kind = .number ∨ c.kind = .integer)
    (hwrite : Scalar.writeNumeric p c.kind v = .ok cell) (hcell : cell.kind = c.kind)
    (hread : Scalar.readNumeric p cell = .ok w) : c.Carries v w := by
  refine ⟨cell, hcell, ?_, ?_⟩
  · intro r declared a
    rw [Registry.writeWith_of_not_nested r c declared (Value.ne_null_of_integer? hv)
      (Value.isNested_of_integer? hv), hform]
    show (Writing.ofResult (Scalar.writeNumeric p c.kind v)).runOn a = _
    rw [hwrite, Writing.runOn_ofResult]
  · intro r target a
    have hmissing : cell.isMissing = false := by
      rw [Bool.eq_false_iff, Ne, Cell.isMissing_iff]
      rintro rfl
      rcases hkind with hkind | hkind <;> rw [hkind] at hcell <;> cases hcell
    have hreads : c.reads cell.kind = true := hcell ▸ c.reads_self
    rw [Registry.readWith, Reading.readBy, hmissing, hreads, hform]
    exact hread

/-- Every integer of up to `2 ^ 53` is carried, and brought within the limits on the way. -/
theorem exists_carries (hform : c.form = .numeric p) (hrange : p.integerRange? = some range)
    (hkind : c.kind = .number ∨ c.kind = .integer) (hv : v.integer? = some n)
    (hn : n.natAbs ≤ 2 ^ 53) :
    ∃ w, c.Carries v w ∧ w.primitive? = some p ∧ w.integer? = some (c.kind.limit range n) := by
  obtain ⟨cell, w, hwrite, hcell, hread, hp, hw⟩ :=
    Scalar.exists_readNumeric_of_written hrange hkind hv hn
  exact ⟨w, carries_of_numeric hform hv hkind hwrite hcell hread, hp, hw⟩

/-- What is carried is carried once more as it is. -/
theorem Carries.again (hform : c.form = .numeric p) (hrange : p.integerRange? = some range)
    (hkind : c.kind = .number ∨ c.kind = .integer) (hv : v.integer? = some n)
    (hn : n.natAbs ≤ 2 ^ 53) (h : c.Carries v w) : c.Carries w w := by
  have hzero := Primitive.zero_mem_of_integerRange? hrange
  obtain ⟨w₁, hcarries, hp, hw⟩ := exists_carries hform hrange hkind hv hn
  have hsame : w = w₁ := h.unique hcarries
  subst hsame
  have hsmall : (c.kind.limit range n).natAbs ≤ 2 ^ 53 :=
    Nat.le_trans (CellKind.natAbs_limit_le hzero n) hn
  obtain ⟨w₂, hagain, hp₂, hw₂⟩ := exists_carries hform hrange hkind hw hsmall
  rw [CellKind.limit_limit hzero] at hw₂
  have hfixed : w₂ = w := Value.eq_of_integer? (hp₂.trans hp.symm) hw₂ hw
  rwa [hfixed] at hagain

/-- What is carried comes out in the order in which it went in. -/
theorem Carries.le {n' : Int} (hform : c.form = .numeric p) (hrange : p.integerRange? = some range)
    (hkind : c.kind = .number ∨ c.kind = .integer) (hv : v.integer? = some n)
    (hn : n.natAbs ≤ 2 ^ 53) (hv' : v'.integer? = some n') (hn' : n'.natAbs ≤ 2 ^ 53)
    (hle : n ≤ n') (h : c.Carries v w) (h' : c.Carries v' w') :
    ∃ i i', w.integer? = some i ∧ w'.integer? = some i' ∧ i ≤ i' := by
  obtain ⟨w₁, hcarries, -, hw⟩ := exists_carries hform hrange hkind hv hn
  obtain ⟨w₂, hcarries', -, hw'⟩ := exists_carries hform hrange hkind hv' hn'
  rw [h.unique hcarries, h'.unique hcarries']
  exact ⟨_, _, hw, hw', CellKind.limit_le_limit hle⟩

/-- **Numeric converters for integer types bring integers within limits, and do nothing else.**

Whatever integer of a magnitude of up to `2 ^ 53` is written, as a number or as a narrow integer, it
is read again as the nearest number in the range of the type, and within 32 bits if it was written
as a narrow integer. So it stays what it is if it lies in this range; what has come out once comes
out again as it is; and of two integers the greater one never comes out as the smaller one. -/
theorem carries_within_limits (hform : c.form = .numeric p)
    (hrange : p.integerRange? = some range) (hkind : c.kind = .number ∨ c.kind = .integer)
    (hv : v.integer? = some n) (hn : n.natAbs ≤ 2 ^ 53) :
    (∃ w, c.Carries v w ∧ w.primitive? = some p ∧ w.integer? = some (c.kind.limit range n)) ∧
      (range.1 ≤ n ∧ n ≤ range.2 →
        (c.kind = .integer → -2147483648 ≤ n ∧ n ≤ 2147483647) →
        ∃ w, c.Carries v w ∧ w.primitive? = some p ∧ w.integer? = some n) ∧
      (∀ w, c.Carries v w → c.Carries w w) ∧
      ∀ v' n' w w', v'.integer? = some n' → n'.natAbs ≤ 2 ^ 53 → n ≤ n' →
        c.Carries v w → c.Carries v' w' →
          ∃ i i', w.integer? = some i ∧ w'.integer? = some i' ∧ i ≤ i' := by
  have hcarries := exists_carries hform hrange hkind hv hn
  refine ⟨hcarries, ?_, ?_, ?_⟩
  · intro hmem hcell
    rwa [CellKind.limit_of_mem hmem hcell] at hcarries
  · intro w h
    exact h.again hform hrange hkind hv hn
  · intro v' n' w w' hv' hn' hle h h'
    exact h.le hform hrange hkind hv hn hv' hn' hle h'

/-- The greatest exact integer, in a cell of a narrow integer: it comes back as the greatest number
of 32 bits, though its type is wider, and no smaller than one that fits. -/
theorem carries_within_limits_long :
    let c : Converter := ⟨.numeric .long, .integer, 4⟩
    (∃ w, c.Carries (.long 9007199254740992) w ∧ w.primitive? = some .long ∧
        w.integer? = some 2147483647) ∧
      (∃ w, c.Carries (.short (-7)) w ∧ w.primitive? = some .long ∧ w.integer? = some (-7)) ∧
      ∀ w w', c.Carries (.short (-7)) w → c.Carries (.long 9007199254740992) w' →
        c.Carries w w ∧ ∃ i i', w.integer? = some i ∧ w'.integer? = some i' ∧ i ≤ i' := by
  intro c
  obtain ⟨hlarge, -, -, -⟩ := carries_within_limits (c := c) (v := .long 9007199254740992)
    (n := 9007199254740992) rfl rfl (.inr rfl) (by decide) (by decide)
  obtain ⟨-, hsmall, hagain, horder⟩ := carries_within_limits (c := c) (v := .short (-7))
    (n := -7) rfl rfl (.inr rfl) (by decide) (by decide)
  refine ⟨hlarge, hsmall (by decide) (by decide), ?_⟩
  intro w w' h h'
  exact ⟨hagain w h,
    horder _ 9007199254740992 w w' (by decide) (by decide) (by decide) h h'⟩

end Converter

end CellMarshal
