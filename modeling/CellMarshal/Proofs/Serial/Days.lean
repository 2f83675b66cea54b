import CellMarshal.Proofs.Decimal.Order
import CellMarshal.Proofs.Value.Equality
import CellMarshal.Serial

/-!
# Dates and their serials

The serials of dates are whole numbers in the order of the dates, and only the serial of the day
that no calendar has is left out among them. Serials and dates are turned into each other with
different tests, a date being compared with the first of March 1900 and a serial with the number of
the missing day; both come to the same bijection, for all dates from the epoch to the end of the
calendar (`dateAt_dayOf`, `dayOf_of_dateAt`). The calendar ends far below `2 ^ 53`, so all serials
in question are exact as doubles. Main statement: `serials_of_dates`.
-/

namespace CellMarshal.Serial

open Decimal

variable {d e : Date} {n : Int} {x : Float} {t : DateTime}

/-! ## Day counts -/

/-- The sixty days between the epoch and the first of March 1900. -/
theorem days_cutoff : cutoff.days = epoch.days + 60 := rfl

/-- A count is the distance from the epoch, one more from the first of March 1900 on. -/
theorem dayOf_cases (d : Date) :
    (d.days < cutoff.days ∧ dayOf d = d.days - epoch.days) ∨
      (cutoff.days ≤ d.days ∧ dayOf d = d.days - epoch.days + 1) := by
  by_cases h : cutoff ≤ d
  · exact Or.inr ⟨h, dayOf_of_le h⟩
  · have hlt : d < cutoff := Int.not_le.1 h
    exact Or.inl ⟨hlt, dayOf_of_lt hlt⟩

/-- Counts are in the order of the dates. -/
theorem dayOf_lt_dayOf_iff : dayOf d < dayOf e ↔ d < e := by
  have hd := dayOf_cases d
  have he := dayOf_cases e
  rw [Date.lt_iff]
  omega

/-- Counts start at the epoch. -/
theorem dayOf_nonneg_iff : 0 ≤ dayOf d ↔ epoch ≤ d := by
  have hd := dayOf_cases d
  have hcutoff := days_cutoff
  rw [Date.le_iff]
  omega

/-- The calendar lies far within the integers that are exact as doubles. -/
theorem natAbs_dayOf_lt (d : Date) : (dayOf d).natAbs < 2 * Binary.fractionSize := by
  have hfirst : -95746129 ≤ d.days := d.first_le
  have hlast : d.days ≤ 95745399 := d.le_last
  have hepoch : epoch.days = 693595 := rfl
  have hd := dayOf_cases d
  simp only [Binary.fractionSize]
  omega

/-! ## Dates of counts -/

/-- Apart from the missing day, a count stands for a date so many days from the epoch, one less
beyond the missing day. -/
theorem dateAt_of_ne (h : n ≠ 60) :
    dateAt n = Date.ofDays? (epoch.days + if n < 60 then n else n - 1) := by
  have hday : n ≠ leapDay := h
  rw [dateAt, if_neg hday]
  rfl

/-- **A count leads back to its date.** -/
theorem dateAt_dayOf (d : Date) : dateAt (dayOf d) = some d := by
  have hne : dayOf d ≠ 60 := dayOf_ne_leapDay d
  have hdays : (epoch.days + if dayOf d < 60 then dayOf d else dayOf d - 1) = d.days := by
    have hd := dayOf_cases d
    have hcutoff := days_cutoff
    split <;> omega
  rw [dateAt_of_ne hne, hdays, Date.ofDays?_days]

/-- **A date leads back to the count that it was found for**, the missing day to the one before. -/
theorem dayOf_of_dateAt (h : dateAt n = some d) : dayOf d = if n = 60 then 59 else n := by
  by_cases hn : n = 60
  · subst hn
    cases h
    decide
  · rw [dateAt_of_ne hn] at h
    have hdays := Date.days_of_ofDays? h
    have hd := dayOf_cases d
    have hcutoff := days_cutoff
    rw [if_neg hn]
    split at hdays <;> omega

/-! ## Serials -/

/-- Serials of dates come in the order of the dates. -/
theorem ofDate_lt_ofDate_iff : ofDate d < ofDate e ↔ d < e :=
  (ofInt_lt_ofInt_iff (natAbs_dayOf_lt d) (natAbs_dayOf_lt e)).trans dayOf_lt_dayOf_iff

/-- No date has the serial 60. -/
theorem ofDate_beq_leapDay (d : Date) : (ofDate d == 60) = false := by
  have hleap : (60 : Float) = Float.ofInt 60 := rfl
  rw [Bool.eq_false_iff, Ne, hleap, ofDate, ofInt_beq_ofInt_iff (natAbs_dayOf_lt d) (by decide)]
  exact dayOf_ne_leapDay d

/-- A whole serial stands for the first moment of a day. -/
theorem split_of_isWhole (h : isWhole x = true) : split x = (wholePart x, 0) := by
  have hseconds : ¬ (secondsPerDay : Int) ≤ 0 := by decide
  have hwhole : (x == Float.ofInt (wholePart x)) = true := h
  simp only [split, hwhole, if_true, if_neg hseconds]

/-- A whole serial is decoded to the first moment of its day, and to nothing if it is not finite or
is below zero. -/
theorem toDateTime?_of_isWhole (h : isWhole x = true) :
    toDateTime? x =
      if x.isFinite && !(x < 0) then (dateAt (wholePart x)).map .midnight else none := by
  rw [toDateTime?, split_of_isWhole h]
  refine ite_congr rfl (fun _ => ?_) fun _ => rfl
  show (dateAt (wholePart x)).bind _ = (dateAt (wholePart x)).map DateTime.midnight
  rcases dateAt (wholePart x) with _ | d
  · rfl
  · rfl

/-- Integers of up to 53 bits are whole doubles. -/
theorem isWhole_ofInt (h : n.natAbs < 2 * Binary.fractionSize) :
    isWhole (Float.ofInt n) = true := by
  rw [isWhole, wholePart_ofInt h, ofInt_beq_ofInt_iff h h]

/-- The serial of a date stands for its first moment, from the epoch on. -/
theorem toDateTime?_ofDate (d : Date) :
    toDateTime? (ofDate d) = if epoch ≤ d then some (.midnight d) else none := by
  have hexact := natAbs_dayOf_lt d
  have hnegative : ofDate d < 0 ↔ dayOf d < 0 := ofInt_lt_zero_iff hexact
  have hfinite : (ofDate d).isFinite = true := isFinite_ofInt hexact
  have hwhole : isWhole (ofDate d) = true := isWhole_ofInt hexact
  have hpart : wholePart (ofDate d) = dayOf d := wholePart_ofInt hexact
  have hstart : epoch ≤ d ↔ ¬ ofDate d < 0 := by
    rw [hnegative, Int.not_lt, dayOf_nonneg_iff]
  rw [toDateTime?_of_isWhole hwhole, hfinite, hpart, dateAt_dayOf]
  by_cases h : epoch ≤ d
  · simp [h, hstart.1 h]
  · simp [h, not_not.1 (hstart.not.1 h)]

/-- A whole serial that stands for something is the serial of its date, the missing day apart. -/
theorem ofDateTime_of_toDateTime? (hx : isWhole x = true) (h : toDateTime? x = some t) :
    (ofDateTime t == if x == 60 then 59 else x) = true := by
  rw [toDateTime?_of_isWhole hx] at h
  obtain ⟨-, h⟩ := Option.ite_none_right_eq_some.1 h
  obtain ⟨d, hdate, rfl⟩ := Option.map_eq_some_iff.1 h
  have hcount := dayOf_of_dateAt hdate
  have hexact := natAbs_dayOf_lt d
  have hwhole : (x == Float.ofInt (wholePart x)) = true := hx
  have hpart : (wholePart x).natAbs < 2 * Binary.fractionSize := by
    simp only [Binary.fractionSize] at hexact ⊢
    split at hcount <;> omega
  have hleap : (x == 60) = true ↔ wholePart x = 60 := by
    rw [← ofInt_beq_ofInt_iff hpart (by decide)]
    exact ⟨fun h => BEq.trans (BEq.symm hwhole) h, fun h => BEq.trans hwhole h⟩
  rw [ofDateTime_midnight, ofDate, hcount]
  by_cases hn : wholePart x = 60
  · rw [if_pos hn, if_pos (hleap.2 hn)]
    decide +kernel
  · rw [if_neg hn, if_neg (hleap.not.2 hn)]
    exact BEq.symm hwhole

/-- **Serials and dates are two names of the same days.**

The serials of dates are in the order of the dates, for all dates of the calendar, and none of them
is 60, the serial of the day that does not exist. The serial of a date from the epoch on stands for
the first moment of this date, and that of an earlier date for nothing. A whole serial that stands
for a moment is the serial of this moment again, except that 60 becomes 59. -/
theorem serials_of_dates :
    (∀ d e : Date, ofDate d < ofDate e ↔ d < e) ∧
      (∀ d : Date, (ofDate d == 60) = false) ∧
      (∀ d : Date, toDateTime? (ofDate d) = if epoch ≤ d then some (.midnight d) else none) ∧
      ∀ (x : Float) (t : DateTime), isWhole x = true → toDateTime? x = some t →
        (ofDateTime t == if x == 60 then 59 else x) = true := by
  refine ⟨?_, ofDate_beq_leapDay, toDateTime?_ofDate, ?_⟩
  · intro d e
    exact ofDate_lt_ofDate_iff
  · intro x t hx ht
    exact ofDateTime_of_toDateTime? hx ht

/-- The missing day decodes to the day before it, the serial of which is 59; the first of March has
the serial 61, and the last day of the calendar one that leads back to it. -/
theorem serials_of_dates_leapDay :
    let last : Date := { days := 95745399 }
    (isWhole 60 = true ∧ toDateTime? 60 = some (.midnight standIn) ∧
        (ofDateTime (.midnight standIn) == 59) = true) ∧
      (ofDate cutoff == 61) = true ∧ toDateTime? (ofDate last) = some (.midnight last) ∧
      ofDate standIn < ofDate cutoff := by
  intro last
  have hwhole : isWhole 60 = true := by decide +kernel
  have hdecoded : toDateTime? 60 = some (.midnight standIn) := by rfl
  obtain ⟨horder, -, hdates, hback⟩ := serials_of_dates
  refine ⟨⟨hwhole, hdecoded, hback 60 _ hwhole hdecoded⟩, ?_, hdates last, ?_⟩
  · decide +kernel
  · exact (horder standIn cutoff).2 (by decide)

end CellMarshal.Serial
