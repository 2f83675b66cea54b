/-!
# The calendar

A `Date` is a day of the proleptic Gregorian calendar, held as its day number, so that the order
and the distance of dates are those of the integers. `Date.ofCivil?` finds the day of a year, month
and day of month, and `Date.civil` names it again. Main statements: `Date.le_iff` and `Date.lt_iff`
(dates come in the order of their day numbers), and `Date.ofDays?_days`, `Date.days_of_ofDays?` (a
date is its day number).
-/

namespace CellMarshal

/-! ## Day numbers -/

namespace Calendar

/-- A year of 365 or 366 days. -/
def isLeapYear (year : Int) : Bool :=
  year % 4 = 0 && (year % 100 ≠ 0 || year % 400 = 0)

/-- The number of days in a month, `0` where there is no such month. -/
def monthLength (year : Int) : Nat → Nat
  | 2 => if isLeapYear year then 29 else 28
  | 4 | 6 | 9 | 11 => 30
  | 1 | 3 | 5 | 7 | 8 | 10 | 12 => 31
  | _ => 0

/-- Days in four centuries. -/
def daysPerEra : Int := 146097

/-- The number of a day; the first of January of the year 1 has number `1`. Years are taken to begin
in March, so that the leap day ends them. -/
def dayNumber (year : Int) (month day : Nat) : Int :=
  let y := if month ≤ 2 then year - 1 else year
  let era := y.fdiv 400
  let yearOfEra := y.fmod 400
  let monthFromMarch : Int := (month + 9) % 12
  let dayOfYear := (153 * monthFromMarch + 2).fdiv 5 + day - 1
  let dayOfEra := yearOfEra * 365 + yearOfEra.fdiv 4 - yearOfEra.fdiv 100 + dayOfYear
  era * daysPerEra + dayOfEra - 305

/-- The year, month and day of month of a day number. -/
def civil (n : Int) : Int × Nat × Nat :=
  let z := n + 305
  let era := z.fdiv daysPerEra
  let dayOfEra := z.fmod daysPerEra
  let yearOfEra :=
    (dayOfEra - dayOfEra.fdiv 1460 + dayOfEra.fdiv 36524 - dayOfEra.fdiv 146096).fdiv 365
  let dayOfYear := dayOfEra - (365 * yearOfEra + yearOfEra.fdiv 4 - yearOfEra.fdiv 100)
  let monthFromMarch := (5 * dayOfYear + 2).fdiv 153
  let day := dayOfYear - (153 * monthFromMarch + 2).fdiv 5 + 1
  let month := if monthFromMarch < 10 then monthFromMarch + 3 else monthFromMarch - 9
  let year := yearOfEra + era * 400 + (if month ≤ 2 then 1 else 0)
  (year, month.toNat, day.toNat)

/-- The first day of the calendar's range, in the year -262143. -/
def firstDay : Int := dayNumber (-262143) 1 1

/-- The last day of the calendar's range, in the year 262142. -/
def lastDay : Int := dayNumber 262142 12 31

example : dayNumber 1 1 1 = 1 ∧ civil 1 = (1, 1, 1) := by decide

example : civil (dayNumber 2000 2 29) = (2000, 2, 29) := by decide

example : civil firstDay = (-262143, 1, 1) ∧ civil lastDay = (262142, 12, 31) := by decide

end Calendar

/-! ## Dates -/

/-- A day of the calendar, by its day number. -/
structure Date where
  days : Int
  first_le : Calendar.firstDay ≤ days := by decide
  le_last : days ≤ Calendar.lastDay := by decide
  deriving DecidableEq

namespace Date

/-- Dates are ordered as their day numbers. -/
instance : LE Date := ⟨fun a b => a.days ≤ b.days⟩

/-- A date is before those of greater day numbers. -/
instance : LT Date := ⟨fun a b => a.days < b.days⟩

/-- Dates are compared by computing with their day numbers. -/
instance (a b : Date) : Decidable (a ≤ b) := inferInstanceAs (Decidable (a.days ≤ b.days))

/-- Dates are compared strictly by computing with their day numbers. -/
instance (a b : Date) : Decidable (a < b) := inferInstanceAs (Decidable (a.days < b.days))

/-- Dates are compared by their day numbers. -/
theorem le_iff {a b : Date} : a ≤ b ↔ a.days ≤ b.days := Iff.rfl

/-- Dates are compared by their day numbers, strictly as well. -/
theorem lt_iff {a b : Date} : a < b ↔ a.days < b.days := Iff.rfl

/-- The date with a day number, where the calendar has it. -/
def ofDays? (n : Int) : Option Date :=
  if h : Calendar.firstDay ≤ n ∧ n ≤ Calendar.lastDay then some ⟨n, h.1, h.2⟩ else none

/-- A date is found under its day number. -/
theorem ofDays?_days (d : Date) : ofDays? d.days = some d := by
  simp [ofDays?, d.first_le, d.le_last]

/-- The date found under a day number has this number. -/
theorem days_of_ofDays? {n : Int} {d : Date} (h : ofDays? n = some d) : d.days = n := by
  unfold ofDays? at h
  split at h
  · cases h; rfl
  · cases h

/-- The date of a year, month and day of month, where there is one. -/
def ofCivil? (year : Int) (month day : Nat) : Option Date :=
  if 1 ≤ day ∧ day ≤ Calendar.monthLength year month then
    ofDays? (Calendar.dayNumber year month day)
  else none

/-- The year, month and day of month of a date. -/
def civil (d : Date) : Int × Nat × Nat :=
  Calendar.civil d.days

/-- The date `n` days after `d`, where the calendar has it. -/
def shift (d : Date) (n : Int) : Option Date :=
  ofDays? (d.days + n)

end Date

/-! ## Times -/

/-- Seconds in a day. -/
def secondsPerDay : Nat := 86400

/-- A second of a day. The nanoseconds reach two thousand million where a leap second is counted
on top of the last second of a minute. -/
structure DateTime where
  date : Date
  second : Fin secondsPerDay
  nanosecond : Nat := 0
  deriving DecidableEq

namespace DateTime

/-- The first moment of a day. -/
def midnight (d : Date) : DateTime :=
  { date := d, second := ⟨0, by decide⟩ }

/-- The moment at an hour, minute, second and nanosecond of a day, where there is one. -/
def ofClock? (d : Date) (hour minute second nanosecond : Nat) : Option DateTime :=
  if hour < 24 ∧ minute < 60 ∧ second < 60 then
    if h : hour * 3600 + minute * 60 + second < secondsPerDay then
      some { date := d, second := ⟨_, h⟩, nanosecond := nanosecond }
    else none
  else none

/-- The hour, minute and second of a moment. -/
def clock (t : DateTime) : Nat × Nat × Nat :=
  (t.second / 3600, t.second / 60 % 60, t.second % 60)

end DateTime

end CellMarshal
