import CellMarshal.Calendar
import CellMarshal.Decimal.Whole

/-!
# Date serials

A spreadsheet counts days from the first of January 1900, which has the serial 1, and a moment adds
the part of the day gone by. The count has a twenty-ninth of February 1900 that no calendar has:
its serial is 60, so every date from the first of March on is one further than its distance from
the epoch. Main statements: `dayOf_of_lt` and `dayOf_of_le` (the two halves of the count),
`dayOf_ne_leapDay` (no date has the serial 60).
-/

namespace CellMarshal.Serial

/-- The day before the one with serial 1, the thirty-first of December 1899. -/
def epoch : Date :=
  { days := 693595 }

/-- The first of March 1900, the first date after the day that does not exist. -/
def cutoff : Date :=
  { days := 693655 }

/-- The twenty-eighth of February 1900, which stands in for the day that does not exist. -/
def standIn : Date :=
  { days := 693654 }

example : Date.ofCivil? 1899 12 31 = some epoch := by decide

example : Date.ofCivil? 1900 3 1 = some cutoff := by decide

example : Date.ofCivil? 1900 2 28 = some standIn := by decide

/-- The serial of the day that does not exist. -/
def leapDay : Int := 60

/-! ## From dates to serials -/

/-- The serial of a date as a whole number. -/
def dayOf (d : Date) : Int :=
  if cutoff ≤ d then d.days - epoch.days + 1 else d.days - epoch.days

/-- From the cutoff on, days are counted one further than they are apart, for the day that never
was. -/
theorem dayOf_of_le {d : Date} (h : cutoff ≤ d) : dayOf d = d.days - epoch.days + 1 := by
  simp [dayOf, h]

/-- Before the cutoff, days are counted as they are apart. -/
theorem dayOf_of_lt {d : Date} (h : d < cutoff) : dayOf d = d.days - epoch.days := by
  have : ¬ cutoff ≤ d := by
    rw [Date.le_iff]; rw [Date.lt_iff] at h; omega
  simp [dayOf, this]

/-- No date has the serial of the day that does not exist. -/
theorem dayOf_ne_leapDay (d : Date) : dayOf d ≠ leapDay := by
  by_cases h : cutoff ≤ d
  · rw [dayOf_of_le h]
    rw [Date.le_iff] at h
    simp only [cutoff, epoch, leapDay] at *
    omega
  · have h' : d < cutoff := by
      rw [Date.lt_iff]; rw [Date.le_iff] at h; omega
    rw [dayOf_of_lt h']
    rw [Date.lt_iff] at h'
    simp only [cutoff, epoch, leapDay] at *
    omega

/-- The serial of a date. -/
def ofDate (d : Date) : Float :=
  Float.ofInt (dayOf d)

/-- The serial of a moment: its date's, and the part of the day gone by in whole seconds. -/
def ofDateTime (t : DateTime) : Float :=
  if t.second.val = 0 then ofDate t.date
  else ofDate t.date + Float.ofNat t.second / Float.ofNat secondsPerDay

/-- The first moment of a date has the serial of the date. -/
theorem ofDateTime_midnight (d : Date) : ofDateTime (.midnight d) = ofDate d := by
  simp [ofDateTime, DateTime.midnight]

/-! ## From serials to dates -/

/-- The date of a whole serial, where the calendar has it. -/
def dateAt (n : Int) : Option Date :=
  if n = leapDay then some standIn
  else epoch.shift (if n < leapDay then n else n - 1)

/-- The whole days of a serial and the seconds that its fraction stands for, to the nearest second.
A fraction that rounds to a full day belongs to the next one. -/
def split (x : Float) : Int × Int :=
  let days := Decimal.wholePart x
  let seconds :=
    if x == Float.ofInt days then 0
    else Decimal.roundHalfAway ((x - Float.ofInt days) * Float.ofNat secondsPerDay)
  if (secondsPerDay : Int) ≤ seconds then (days + 1, seconds - secondsPerDay) else (days, seconds)

/-- The moment a serial stands for; none for a negative serial, one that is not finite, and one
beyond the calendar. -/
def toDateTime? (x : Float) : Option DateTime :=
  if x.isFinite && !(x < 0) then
    let (days, seconds) := split x
    (dateAt days).bind fun d =>
      if h : seconds.toNat < secondsPerDay then
        some { date := d, second := ⟨seconds.toNat, h⟩ }
      else none
  else none

end CellMarshal.Serial
