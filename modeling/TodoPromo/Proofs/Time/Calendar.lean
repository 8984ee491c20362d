import TodoPromo.Time.Instant

/-! # Days and dates

`Date.ofDay` gives every numbered day its date, and `Date.toDay` numbers it back
(`Date.toDay_ofDay`, `Date.exists?_ofDay`). Years begin in March for both, so all that there is to the
calendar is where a year begins (`yearStart`) and where a month begins in it (`monthStart`). Six months
are 181 to 184 days, wherever they begin (`Date.toDay_addMonths_six`). -/

namespace TodoPromo.Time

/-- The day on which a year begins in March, counted from the beginning of the year zero. -/
def yearStart (y : Int) : Int := 365 * y + y / 4 - y / 100 + y / 400

/-- The day of such a year on which a month begins; March is the month zero. -/
def monthStart (m : Int) : Int := (153 * m + 2) / 5

/-! ### The year of a day -/

/-- The day of its era from which the year of the era is found: the days that leap years add are
taken out. -/
def evened (day : Int) : Int := day - day / 1460 + day / 36524 - day / 146096

theorem evened_le_succ {a : Int} (h0 : 0 ≤ a) (h : a + 1 < 146097) : evened a ≤ evened (a + 1) := by
  unfold evened
  omega

theorem evened_mono {a b : Int} (h0 : 0 ≤ a) (hab : a ≤ b) (hb : b < 146097) :
    evened a ≤ evened b := by
  obtain ⟨n, rfl⟩ : ∃ n : Nat, b = a + n := ⟨(b - a).toNat, by omega⟩
  induction n with
  | zero => simp
  | succ n ih =>
      have hstep : evened (a + n) ≤ evened (a + n + 1) := evened_le_succ (by omega) (by omega)
      have hn := ih (by omega) (by omega)
      have hcast : a + ((n + 1 : Nat) : Int) = a + n + 1 := by omega
      rw [hcast]
      omega

/-- On the first day of a year of the era the year is found, and on the day before it is not. -/
theorem evened_yearStart : ∀ y : Nat, y < 400 →
    evened (yearStart y) / 365 = y ∧ (0 < y → evened (yearStart y - 1) / 365 = y - 1) := by
  decide +kernel

/-- The year of the era that is found for a day is the one in which the day lies. -/
theorem year_of_day {day : Int} (h0 : 0 ≤ day) (h : day < 146097) :
    0 ≤ evened day / 365 ∧ evened day / 365 < 400 ∧ yearStart (evened day / 365) ≤ day ∧
      day < yearStart (evened day / 365 + 1) := by
  have hrange : 0 ≤ evened day / 365 ∧ evened day / 365 < 400 := by
    unfold evened
    omega
  obtain ⟨y, hy⟩ := Int.eq_ofNat_of_zero_le hrange.1
  have hstart : yearStart y = 365 * y + y / 4 - y / 100 := by
    unfold yearStart
    omega
  rw [hy] at hrange ⊢
  refine ⟨hrange.1, hrange.2, ?_, ?_⟩
  · rcases Int.lt_or_le day (yearStart y) with hbefore | hfrom
    · have hpos : 0 < y := by
        rcases Nat.eq_zero_or_pos y with rfl | hpos
        · exact absurd hbefore (by simp [yearStart]; omega)
        · exact hpos
      have hprevious := (evened_yearStart y (by omega)).2 hpos
      have hle : evened day ≤ evened (yearStart y - 1) := evened_mono h0 (by omega) (by omega)
      omega
    · exact hfrom
  · rcases Int.lt_or_le day (yearStart (y + 1)) with hbefore | hfrom
    · exact hbefore
    · have hlast : y ≠ 399 := by
        rintro rfl
        exact absurd hfrom (by simp [yearStart]; omega)
      have hnext := (evened_yearStart (y + 1) (by omega)).1
      have hle : evened (yearStart (y + 1)) ≤ evened day :=
        evened_mono (by unfold yearStart; omega) hfrom h
      simp only [Int.natCast_add, Int.natCast_one] at hnext
      omega

theorem yearStart_era (y era : Int) : yearStart (y + era * 400) = yearStart y + era * 146097 := by
  unfold yearStart
  omega

/-! ### Days from dates and dates from days -/

/-- The length of a year that begins in March: its last day is there if the calendar year that ends
in it is a leap year. -/
theorem yearStart_succ (y : Int) :
    yearStart (y + 1) = yearStart y + if isLeapYear (y + 1) then 366 else 365 := by
  have hleap : isLeapYear (y + 1) = true ↔
      (y + 1) % 4 = 0 ∧ ((y + 1) % 100 ≠ 0 ∨ (y + 1) % 400 = 0) := by
    simp [isLeapYear]
  unfold yearStart
  by_cases h : isLeapYear (y + 1) = true
  · rw [if_pos h]
    rw [hleap] at h
    omega
  · rw [if_neg h]
    rw [hleap] at h
    omega

namespace Date

/-- The year that begins in March and holds the date, and the month counted from March. -/
def marchYear (d : Date) : Int := if d.month ≤ 2 then d.year - 1 else d.year

def marchMonth (d : Date) : Int := if d.month ≤ 2 then (d.month : Int) + 9 else (d.month : Int) - 3

theorem toDay_eq (d : Date) :
    d.toDay = yearStart d.marchYear + monthStart d.marchMonth + d.day - 719469 := by
  unfold toDay
  change d.marchYear / 400 * 146097 + (d.marchYear % 400 * 365 + d.marchYear % 400 / 4 -
    d.marchYear % 400 / 100 + ((153 * d.marchMonth + 2) / 5 + d.day - 1)) - 719468 = _
  unfold yearStart monthStart
  omega

/-- The day of the year on which a month is over: the next one begins, or the year ends. -/
def monthEnd (y m : Int) : Int := if m < 11 then monthStart (m + 1) else yearStart (y + 1) - yearStart y

/-- A day lies in a year that begins in March, in a month of it and at a place in the month. -/
structure Placed (n y m : Int) (d : Nat) : Prop where
  month_nonneg : 0 ≤ m
  month_lt : m < 12
  day_pos : 1 ≤ d
  day_le : monthStart m + d ≤ monthEnd y m
  day_eq : yearStart y + monthStart m + d - 719469 = n

/-- The date of such a place. -/
def ofMarch (y m : Int) (d : Nat) : Date :=
  ⟨y + if m < 10 then 0 else 1, (if m < 10 then m + 3 else m - 9).toNat, d⟩

theorem exists_placed (n : Int) : ∃ y m d, Placed n y m d ∧ ofDay n = ofMarch y m d := by
  have hrange : 0 ≤ (n + 719468) % 146097 ∧ (n + 719468) % 146097 < 146097 := by omega
  have hsplit : n + 719468 = (n + 719468) / 146097 * 146097 + (n + 719468) % 146097 := by omega
  have hof : ofDay n =
      let day := (n + 719468) % 146097
      let year := evened day / 365
      let dayOfYear := day - (365 * year + year / 4 - year / 100)
      let m := (5 * dayOfYear + 2) / 153
      ofMarch (year + (n + 719468) / 146097 * 400) m (dayOfYear - monthStart m + 1).toNat := rfl
  rw [hof]
  dsimp only
  generalize (n + 719468) / 146097 = era, (n + 719468) % 146097 = day at *
  obtain ⟨hyear0, hyear, hfrom, hbefore⟩ := year_of_day hrange.1 hrange.2
  generalize evened day / 365 = year at *
  have hstart : 365 * year + year / 4 - year / 100 = yearStart year := by
    unfold yearStart
    omega
  have hlength : yearStart (year + 1) ≤ yearStart year + 366 := by
    rw [yearStart_succ]
    split <;> omega
  have hera := yearStart_era year era
  have hnext := yearStart_era (year + 1) era
  rw [Int.add_right_comm] at hnext
  rw [hstart]
  obtain ⟨dayOfYear, hday⟩ : ∃ dayOfYear : Int, day - yearStart year = dayOfYear := ⟨_, rfl⟩
  rw [hday]
  refine ⟨_, _, _, ?_, rfl⟩
  unfold monthStart
  constructor
  · omega
  · omega
  · omega
  · unfold monthEnd
    rw [hera, hnext, monthStart, monthStart]
    split <;> omega
  · rw [hera, monthStart]
    omega

theorem month_cases {m : Int} (h0 : 0 ≤ m) (h : m < 12) : m = 0 ∨ m = 1 ∨ m = 2 ∨ m = 3 ∨ m = 4 ∨
    m = 5 ∨ m = 6 ∨ m = 7 ∨ m = 8 ∨ m = 9 ∨ m = 10 ∨ m = 11 := by
  omega

theorem toDay_ofMarch {y m : Int} {d : Nat} (h0 : 0 ≤ m) (h : m < 12) :
    (ofMarch y m d).toDay = yearStart y + monthStart m + d - 719469 := by
  have hplace : (ofMarch y m d).marchYear = y ∧ (ofMarch y m d).marchMonth = m := by
    simp only [marchYear, marchMonth, ofMarch]
    by_cases hm : m < 10
    · simp only [if_pos hm]
      rw [if_neg (by omega), if_neg (by omega)]
      omega
    · simp only [if_neg hm]
      rw [if_pos (by omega), if_pos (by omega)]
      omega
  rw [toDay_eq, hplace.1, hplace.2]
  rfl

theorem daysInMonth_ofMarch {y m : Int} {d : Nat} (h0 : 0 ≤ m) (h : m < 12) :
    (daysInMonth (ofMarch y m d).year (ofMarch y m d).month : Int) =
      monthEnd y m - monthStart m := by
  rcases month_cases h0 h with rfl | rfl | rfl | rfl | rfl | rfl | rfl | rfl | rfl | rfl | rfl | rfl
  all_goals try rfl
  have hlength := yearStart_succ y
  simp only [ofMarch, daysInMonth, monthEnd, monthStart]
  by_cases hleap : isLeapYear (y + 1) = true
  · simp [hleap] at hlength ⊢
    omega
  · simp [hleap] at hlength ⊢
    omega

theorem toDay_ofDay (n : Int) : (ofDay n).toDay = n := by
  obtain ⟨y, m, d, h, hof⟩ := exists_placed n
  rw [hof, toDay_ofMarch h.month_nonneg h.month_lt, h.day_eq]

theorem exists?_ofDay (n : Int) : (ofDay n).exists? = true := by
  obtain ⟨y, m, d, h, hof⟩ := exists_placed n
  have hdays := daysInMonth_ofMarch (y := y) (d := d) h.month_nonneg h.month_lt
  have hle := h.day_le
  have hpos := h.day_pos
  have hmonth : 1 ≤ (ofMarch y m d).month ∧ (ofMarch y m d).month ≤ 12 := by
    have h0 := h.month_nonneg
    have h12 := h.month_lt
    unfold ofMarch
    dsimp only
    split <;> omega
  rw [hof]
  unfold exists?
  simp only [Bool.and_eq_true, decide_eq_true_eq]
  refine ⟨⟨⟨hmonth.1, hmonth.2⟩, hpos⟩, ?_⟩
  change d ≤ _
  omega

/-- The years of the days that can be represented have six digits at most. -/
theorem year_ofDay {n : Int} (h0 : firstDay ≤ n) (h : n ≤ lastDay) :
    -1000000 < (ofDay n).year ∧ (ofDay n).year < 1000000 := by
  obtain ⟨y, m, d, hplaced, hof⟩ := exists_placed n
  have hm := hplaced.month_nonneg
  have hm' := hplaced.month_lt
  have hle := hplaced.day_le
  have heq := hplaced.day_eq
  rw [hof]
  unfold ofMarch firstDay lastDay monthEnd yearStart monthStart at *
  dsimp only
  split <;> split at hle <;> omega

/-! ### Six months -/

theorem addMonths_six_ofMarch {y m : Int} {d : Nat} (h0 : 0 ≤ m) (h : m < 12) :
    ∃ y' m', (m < 6 ∧ y' = y ∧ m' = m + 6 ∨ 6 ≤ m ∧ y' = y + 1 ∧ m' = m - 6) ∧
      (ofMarch y m d).addMonths 6 = ofMarch y' m'
        (min d (daysInMonth (ofMarch y' m' d).year (ofMarch y' m' d).month)) := by
  rcases month_cases h0 h with rfl | rfl | rfl | rfl | rfl | rfl | rfl | rfl | rfl | rfl | rfl | rfl
  all_goals first
    | exact ⟨y, _, .inl ⟨by decide, rfl, rfl⟩, by simp [addMonths, ofMarch]⟩
    | exact ⟨y + 1, _, .inr ⟨by decide, rfl, rfl⟩, by simp [addMonths, ofMarch]⟩

/-- Six months are 181 to 184 days. -/
theorem toDay_addMonths_six (n : Int) :
    n + 181 ≤ ((ofDay n).addMonths 6).toDay ∧ ((ofDay n).addMonths 6).toDay ≤ n + 184 := by
  obtain ⟨y, m, d, h, hof⟩ := exists_placed n
  obtain ⟨y', m', hmonth, hadd⟩ :=
    addMonths_six_ofMarch (y := y) (d := d) h.month_nonneg h.month_lt
  have h0 := h.month_nonneg
  have h12 := h.month_lt
  have hrange : 0 ≤ m' ∧ m' < 12 := by omega
  have hdays := daysInMonth_ofMarch (y := y') (d := d) hrange.1 hrange.2
  have hle := h.day_le
  have heq := h.day_eq
  have hpos := h.day_pos
  rw [hof, hadd, toDay_ofMarch hrange.1 hrange.2]
  generalize daysInMonth (ofMarch y' m' d).year (ofMarch y' m' d).month = days at *
  have hlength : yearStart y + 365 ≤ yearStart (y + 1) ∧ yearStart (y + 1) ≤ yearStart y + 366 := by
    rw [yearStart_succ]
    split <;> omega
  have hlength' :
      yearStart y' + 365 ≤ yearStart (y' + 1) ∧ yearStart (y' + 1) ≤ yearStart y' + 366 := by
    rw [yearStart_succ]
    split <;> omega
  unfold monthEnd monthStart at *
  rcases hmonth with ⟨hm, rfl, rfl⟩ | ⟨hm, rfl, rfl⟩
  · split at hle <;> split at hdays <;> omega
  · split at hle <;> split at hdays <;> omega

end Date
end TodoPromo.Time
