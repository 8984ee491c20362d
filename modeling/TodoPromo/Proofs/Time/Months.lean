import Mathlib.Data.Int.Order.Basic
import TodoPromo.Proofs.Time.Instants

/-! # Dates in order, and months later

Dates are numbered in their order, by month first and by day within the month (`Date.toDay_lt_iff`), so
a date that exists is the date of its own day (`Date.ofDay_toDay`), and an instant is before the beginning
of a day exactly if its date is earlier (`Instant.lt_startOfDay_iff`). Some months after a date comes the
same day of the month, or the last day of a month that is too short (`Date.MonthsAfter`). Moving dates by
months keeps their order, although it may bring two of them together (`Date.toDay_addMonths_mono`). -/

namespace TodoPromo.Time

namespace Date

variable {d e : Date} {n : Nat}

/-- The month of a date, counted through the years. -/
def monthCount (d : Date) : Int := 12 * d.year + d.month

theorem exists?_iff :
    d.exists? = true ↔ 1 ≤ d.month ∧ d.month ≤ 12 ∧ 1 ≤ d.day ∧ d.day ≤ daysInMonth d.year d.month := by
  unfold exists?
  simp [and_assoc]

theorem same_month (hd : d.exists? = true) (he : e.exists? = true)
    (h : d.monthCount = e.monthCount) : d.year = e.year ∧ d.month = e.month := by
  obtain ⟨hd1, hd12, -⟩ := exists?_iff.mp hd
  obtain ⟨he1, he12, -⟩ := exists?_iff.mp he
  unfold monthCount at h
  omega

theorem eq_of_same_month (hd : d.exists? = true) (he : e.exists? = true)
    (h : d.monthCount = e.monthCount) (hday : d.day = e.day) : d = e := by
  obtain ⟨hyear, hmonth⟩ := same_month hd he h
  cases d
  cases e
  rw [Date.mk.injEq]
  exact ⟨hyear, hmonth, hday⟩

/-! ### The order of dates -/

theorem ofMarch_march (h : 1 ≤ d.month ∧ d.month ≤ 12) :
    ofMarch d.marchYear d.marchMonth d.day = d := by
  obtain ⟨year, month, day⟩ := d
  dsimp only at h
  unfold ofMarch marchYear marchMonth
  rw [Date.mk.injEq]
  dsimp only
  refine ⟨?_, ?_, rfl⟩
  · split <;> split <;> omega
  · split <;> split <;> omega

theorem placed_toDay (h : d.exists? = true) : Placed d.toDay d.marchYear d.marchMonth d.day := by
  obtain ⟨hmonth, hmonth', hday, hday'⟩ := exists?_iff.mp h
  have hrange : 0 ≤ d.marchMonth ∧ d.marchMonth < 12 := by
    unfold marchMonth
    split <;> omega
  have hdays := daysInMonth_ofMarch (y := d.marchYear) (d := d.day) hrange.1 hrange.2
  rw [ofMarch_march ⟨hmonth, hmonth'⟩] at hdays
  constructor
  · exact hrange.1
  · exact hrange.2
  · exact hday
  · omega
  · exact (toDay_eq d).symm

theorem yearStart_le {y y' : Int} (h : y < y') : yearStart (y + 1) ≤ yearStart y' := by
  rcases Int.lt_or_eq_of_le (Int.add_one_le_of_lt h) with hlt | heq
  · unfold yearStart
    omega
  · exact heq ▸ Int.le_refl _

/-- Days come one after the other within a month, and so do months within a year. -/
theorem Placed.lt {k k' y y' m m' : Int} {i i' : Nat} (h : Placed k y m i) (h' : Placed k' y' m' i')
    (hlt : y < y' ∨ y = y' ∧ (m < m' ∨ m = m' ∧ i < i')) : k < k' := by
  have hstart := h.month_nonneg
  have hstart' := h'.month_nonneg
  have hend := h.month_lt
  have hend' := h'.month_lt
  have hle := h.day_le
  have hpos := h'.day_pos
  have heq := h.day_eq
  have heq' := h'.day_eq
  unfold monthEnd monthStart at hle
  unfold monthStart at heq heq'
  obtain hyear | ⟨rfl, hmonth | ⟨rfl, hday⟩⟩ := hlt
  · have hyears := yearStart_le hyear
    have hlength : yearStart y + 365 ≤ yearStart (y + 1) := by
      rw [yearStart_succ]
      split <;> omega
    split at hle <;> omega
  · rw [if_pos (by omega)] at hle
    omega
  · omega

theorem toDay_lt_of_before (hd : d.exists? = true) (he : e.exists? = true)
    (h : d.monthCount < e.monthCount ∨ d.monthCount = e.monthCount ∧ d.day < e.day) :
    d.toDay < e.toDay := by
  obtain ⟨hd1, hd12, -⟩ := exists?_iff.mp hd
  obtain ⟨he1, he12, -⟩ := exists?_iff.mp he
  apply (placed_toDay hd).lt (placed_toDay he)
  unfold monthCount at h
  unfold marchYear marchMonth
  split <;> split <;> omega

/-- Of two dates the one with the earlier month comes first, or the one with the earlier day of the same
month. -/
theorem toDay_lt_iff (hd : d.exists? = true) (he : e.exists? = true) :
    d.toDay < e.toDay ↔ d.monthCount < e.monthCount ∨ d.monthCount = e.monthCount ∧ d.day < e.day := by
  constructor
  · intro h
    by_contra hnot
    have hback : (e.monthCount < d.monthCount ∨ e.monthCount = d.monthCount ∧ e.day < d.day) ∨
        d.monthCount = e.monthCount ∧ d.day = e.day := by omega
    obtain hback | ⟨hmonth, hday⟩ := hback
    · have hlt := toDay_lt_of_before he hd hback
      omega
    · rw [eq_of_same_month hd he hmonth hday] at h
      omega
  · exact toDay_lt_of_before hd he

/-- One date is earlier than another: by its year, in one year by its month, and in one month by its
day. -/
def Before (d e : Date) : Prop :=
  d.year < e.year ∨ d.year = e.year ∧ (d.month < e.month ∨ d.month = e.month ∧ d.day < e.day)

instance : LT Date := ⟨Before⟩
instance : LE Date := ⟨fun d e => ¬ e < d⟩

instance (d e : Date) : Decidable (d < e) := by
  change Decidable (Before d e)
  unfold Before
  infer_instance

instance (d e : Date) : Decidable (d ≤ e) := inferInstanceAs (Decidable (¬ _))

theorem toDay_lt_toDay_iff (hd : d.exists? = true) (he : e.exists? = true) :
    d.toDay < e.toDay ↔ d < e := by
  obtain ⟨hd1, hd12, -⟩ := exists?_iff.mp hd
  obtain ⟨he1, he12, -⟩ := exists?_iff.mp he
  rw [toDay_lt_iff hd he]
  change _ ↔ Before d e
  unfold Before monthCount
  omega

theorem ofDay_toDay (h : d.exists? = true) : ofDay d.toDay = d := by
  have he := exists?_ofDay d.toDay
  have hday := toDay_ofDay d.toDay
  have hlt := mt (toDay_lt_iff he h).mpr (by omega)
  have hgt := mt (toDay_lt_iff h he).mpr (by omega)
  apply eq_of_same_month he h
  · omega
  · omega

/-! ### Months later -/

/-- A date comes some months after another one: it has the same day of the month, or the last one if its
month is too short. -/
structure MonthsAfter (n : Nat) (d e : Date) : Prop where
  month_pos : 1 ≤ e.month
  month_le : e.month ≤ 12
  months : 12 * e.year + e.month = 12 * d.year + d.month + n
  day : e.day = min d.day (daysInMonth e.year e.month)

theorem addMonths_monthsAfter (n : Nat) (h : 1 ≤ d.month) : MonthsAfter n d (d.addMonths n) := by
  constructor
  · show 1 ≤ (d.month - 1 + n) % 12 + 1
    omega
  · show (d.month - 1 + n) % 12 + 1 ≤ 12
    omega
  · show 12 * (d.year + ((d.month - 1 + n) / 12 : Nat)) + (((d.month - 1 + n) % 12 + 1 : Nat) : Int) =
      12 * d.year + d.month + n
    omega
  · rfl

theorem one_le_daysInMonth (y : Int) (m : Nat) : 1 ≤ daysInMonth y m := by
  unfold daysInMonth
  split
  · split <;> decide
  · split <;> decide

theorem MonthsAfter.monthCount (h : MonthsAfter n d e) : e.monthCount = d.monthCount + n := h.months

theorem MonthsAfter.exists? (h : MonthsAfter n d e) (hd : d.exists? = true) : e.exists? = true := by
  have hpos := (exists?_iff.mp hd).2.2.1
  have hdays := one_le_daysInMonth e.year e.month
  have hday := h.day
  exact exists?_iff.mpr ⟨h.month_pos, h.month_le, by omega, by omega⟩

/-- Moving two dates by the same number of months keeps their order. -/
theorem MonthsAfter.mono {d' e' : Date} (h : MonthsAfter n d d') (h' : MonthsAfter n e e')
    (hd : d.exists? = true) (he : e.exists? = true) (hle : d.toDay ≤ e.toDay) :
    d'.toDay ≤ e'.toDay := by
  have hbefore := mt (toDay_lt_iff he hd).mpr (by omega)
  have hcount := h.monthCount
  have hcount' := h'.monthCount
  by_contra hnot
  obtain hmonths | ⟨hmonths, hday⟩ := (toDay_lt_iff (h'.exists? he) (h.exists? hd)).mp (by omega)
  · omega
  · obtain ⟨hyear, hmonth⟩ := same_month (h'.exists? he) (h.exists? hd) hmonths
    rw [h.day, h'.day, hyear, hmonth] at hday
    omega

theorem toDay_addMonths_mono (n : Nat) (hd : d.exists? = true) (he : e.exists? = true)
    (hle : d.toDay ≤ e.toDay) : (d.addMonths n).toDay ≤ (e.addMonths n).toDay :=
  (addMonths_monthsAfter n (exists?_iff.mp hd).1).mono (addMonths_monthsAfter n (exists?_iff.mp he).1)
    hd he hle

/-- The day of a date is not after the day some months later. -/
theorem toDay_le_addMonths (n : Nat) (hd : d.exists? = true) : d.toDay ≤ (d.addMonths n).toDay := by
  have hafter := addMonths_monthsAfter n (exists?_iff.mp hd).1
  have hcount := hafter.monthCount
  by_contra hnot
  obtain hmonths | ⟨hmonths, hday⟩ := (toDay_lt_iff (hafter.exists? hd) hd).mp (by omega)
  · omega
  · obtain ⟨hyear, hmonth⟩ := same_month (hafter.exists? hd) hd hmonths
    have hdays := (exists?_iff.mp hd).2.2.2
    rw [hafter.day, hyear, hmonth] at hday
    omega

end Date

namespace Instant

/-! ### The dates of instants -/

variable {a b : Instant}

/-- The date on which an instant lies. The date of a leap second is that of the day that it ends. -/
def date (a : Instant) : Date := Date.ofDay a.day

theorem date_lt_iff : a.date < b.date ↔ a.day < b.day := by
  have h := Date.toDay_lt_toDay_iff (Date.exists?_ofDay a.day) (Date.exists?_ofDay b.day)
  rw [Date.toDay_ofDay, Date.toDay_ofDay] at h
  exact h.symm

theorem lt_startOfDay_iff : a < b.startOfDay ↔ a.date < b.date :=
  (lt_midnight_iff b.isMidnight_startOfDay).trans date_lt_iff.symm

theorem startOfDay_le_iff : b.startOfDay ≤ a ↔ b.date ≤ a.date :=
  not_congr lt_startOfDay_iff

/-! ### Instants months later -/

/-- Some months after the day of an instant comes the midnight of that day, or the last midnight there is
if that day is beyond it. -/
theorem monthsLater_spec (a : Instant) (n : Nat) :
    (a.monthsLater n).IsMidnight ∧
      (a.monthsLater n).day = min ((Date.ofDay a.day).addMonths n).toDay lastDay := by
  have hle := Date.toDay_le_addMonths n (Date.exists?_ofDay a.day)
  rw [Date.toDay_ofDay] at hle
  have hfirst := a.firstDay_le
  unfold monthsLater
  generalize ((Date.ofDay a.day).addMonths n).toDay = day at *
  by_cases hlast : day ≤ lastDay
  · obtain ⟨b, hb, hday, hmidnight⟩ := midnight?_eq_some ⟨by omega, hlast⟩
    rw [hb, min_eq_left hlast]
    exact ⟨hmidnight, hday⟩
  · have hnone : midnight? day = none := dif_neg fun h => hlast h.2
    rw [hnone, min_eq_right (by omega)]
    exact ⟨⟨rfl, rfl⟩, rfl⟩

/-- What comes some months later does not come earlier for a later instant. -/
theorem monthsLater_mono (n : Nat) (h : a ≤ b) : a.monthsLater n ≤ b.monthsLater n := by
  obtain ⟨hmidnight, hday⟩ := a.monthsLater_spec n
  obtain ⟨-, hday'⟩ := b.monthsLater_spec n
  rw [midnight_le_iff hmidnight, hday, hday']
  have hmono := Date.toDay_addMonths_mono n (Date.exists?_ofDay a.day) (Date.exists?_ofDay b.day)
    (by rw [Date.toDay_ofDay, Date.toDay_ofDay]; exact day_le_of_le h)
  omega

end Instant
end TodoPromo.Time
