/-! # Dates and instants

Dates of the Gregorian calendar, extended to all years, and the days they number. Days count from
1 January 1970. Years begin in March here, so that the leap day is the last one of its year and
a month starts a fixed number of days after the year does; four centuries have the same length
always.

Instants are points in time of the UTC day, to the nanosecond, between 1 January −262143 and 31
December 262142. A leap second is counted with the second before it: its nanoseconds start at 10⁹.
Instants are ordered by day, then second, then nanosecond. -/

namespace TodoPromo.Time

/-! ### The calendar -/

/-- A date, with the months and days counted from one. -/
structure Date where
  year : Int
  month : Nat
  day : Nat
  deriving DecidableEq, Repr

def isLeapYear (y : Int) : Bool := y % 4 == 0 && (y % 100 != 0 || y % 400 == 0)

/-- How many days a month has. -/
def daysInMonth (y : Int) (m : Nat) : Nat :=
  if m = 2 then (if isLeapYear y then 29 else 28)
  else if m = 4 || m = 6 || m = 9 || m = 11 then 30
  else 31

namespace Date

/-- Whether there is such a date. -/
def exists? (d : Date) : Bool :=
  1 ≤ d.month && d.month ≤ 12 && 1 ≤ d.day && d.day ≤ daysInMonth d.year d.month

/-- The number of the day, counted from 1 January 1970. -/
def toDay (d : Date) : Int :=
  let y := if d.month ≤ 2 then d.year - 1 else d.year
  let m : Int := if d.month ≤ 2 then (d.month : Int) + 9 else (d.month : Int) - 3
  let yearOfEra := y % 400
  let dayOfYear := (153 * m + 2) / 5 + d.day - 1
  y / 400 * 146097 + (yearOfEra * 365 + yearOfEra / 4 - yearOfEra / 100 + dayOfYear) - 719468

/-- The date of a numbered day. -/
def ofDay (n : Int) : Date :=
  let z := n + 719468
  let dayOfEra := z % 146097
  let yearOfEra :=
    (dayOfEra - dayOfEra / 1460 + dayOfEra / 36524 - dayOfEra / 146096) / 365
  let dayOfYear := dayOfEra - (365 * yearOfEra + yearOfEra / 4 - yearOfEra / 100)
  let m := (5 * dayOfYear + 2) / 153
  let day := dayOfYear - (153 * m + 2) / 5 + 1
  let month := if m < 10 then m + 3 else m - 9
  let year := yearOfEra + z / 146097 * 400 + if m < 10 then 0 else 1
  ⟨year, month.toNat, day.toNat⟩

/-- The same day of the month some months later, or the last day of that month if it is shorter. -/
def addMonths (d : Date) (n : Nat) : Date :=
  let months := d.month - 1 + n
  let year := d.year + (months / 12 : Nat)
  let month := months % 12 + 1
  ⟨year, month, min d.day (daysInMonth year month)⟩

end Date

/-! ### Instants -/

/-- The number of 1 January −262143. -/
def firstDay : Int := -96465292

/-- The number of 31 December 262142. -/
def lastDay : Int := 95026236

example : Date.ofDay firstDay = ⟨-262143, 1, 1⟩ ∧ Date.ofDay lastDay = ⟨262142, 12, 31⟩ := by
  decide +kernel

/-- A day, a second of it and a fraction in nanoseconds. -/
structure Instant where
  day : Int
  second : Nat
  nano : Nat
  firstDay_le : firstDay ≤ day
  le_lastDay : day ≤ lastDay
  second_lt : second < 86400
  nano_lt : nano < 2000000000
  leap : 1000000000 ≤ nano → second % 60 = 59
  deriving DecidableEq

namespace Instant

/-- One instant is earlier than another. -/
def Before (a b : Instant) : Prop :=
  a.day < b.day ∨ a.day = b.day ∧ (a.second < b.second ∨ a.second = b.second ∧ a.nano < b.nano)

instance : LT Instant := ⟨Before⟩
instance : LE Instant := ⟨fun a b => ¬ b < a⟩

instance (a b : Instant) : Decidable (a < b) := by
  change Decidable (Before a b)
  unfold Before
  infer_instance

instance (a b : Instant) : Decidable (a ≤ b) := inferInstanceAs (Decidable (¬ _))

/-- The midnight at which a numbered day begins, if the day can be represented. -/
def midnight? (day : Int) : Option Instant :=
  if h : firstDay ≤ day ∧ day ≤ lastDay then
    some ⟨day, 0, 0, h.1, h.2, by decide, by decide, by decide⟩
  else none

/-- The midnight at which the last representable day begins. -/
def lastMidnight : Instant :=
  ⟨lastDay, 0, 0, by decide, by decide, by decide, by decide, by decide⟩

/-- The midnight at which the day of `t` begins. -/
def startOfDay (t : Instant) : Instant :=
  ⟨t.day, 0, 0, t.firstDay_le, t.le_lastDay, by decide, by decide, by decide⟩

/-- The midnight so many days after the day of `t` began, if it can be represented. -/
def daysLater? (t : Instant) (n : Nat) : Option Instant := midnight? (t.day + n)

/-- The midnight of the date so many months after that of `t`, or the last representable one when
that date is beyond it. -/
def monthsLater (t : Instant) (n : Nat) : Instant :=
  (midnight? ((Date.ofDay t.day).addMonths n).toDay).getD lastMidnight

theorem startOfDay_startOfDay (t : Instant) : t.startOfDay.startOfDay = t.startOfDay := rfl

end Instant
end TodoPromo.Time
