import TodoPromo.Proofs.Promo.Operations
import TodoPromo.Proofs.Time.Months

/-! # Windows by date

The window of a new code begins and ends with a day, whatever the times of day from which it was made. So
whether the code can be redeemed at an instant hangs on the dates alone: on that of the instant, on the one
on which the window begins and on the one before which it ends (`PromoCode.check_fresh`). A leap second
counts with the day that it ends. -/

namespace TodoPromo.PromoCode

open Time (Instant firstDay lastDay)

variable (id : String) (start stop : Instant) (discount : Single) (now : Instant)

/-- The verdict on a new code compares three dates. -/
theorem check_fresh : (fresh id start stop discount).check now =
    if now.date < start.date then some .notYetActive
    else if now.date < stop.date then none
    else some .expired := by
  have hunused : (fresh id start stop discount).used = false := rfl
  obtain ⟨hcheck, hearly⟩ | ⟨hbegun, ⟨hcheck, hover⟩ | ⟨hcheck, hopen⟩⟩ := check_unused hunused now
  · rw [hcheck, if_pos (Instant.lt_startOfDay_iff.mp hearly)]
  · rw [hcheck, if_neg (Instant.startOfDay_le_iff.mp hbegun), if_neg (Instant.startOfDay_le_iff.mp hover)]
  · rw [hcheck, if_neg (Instant.startOfDay_le_iff.mp hbegun), if_pos (Instant.lt_startOfDay_iff.mp hopen)]

/-- Days begin at the greatest midnight that is not after an instant, which is its own beginning and is not
earlier for a later instant. A new code is not active yet before the date on which its window begins,
expired when neither that date nor the one of its end is still to come, and can be redeemed from the date
of the beginning up to, but not including, that of the end. -/
theorem window_by_dates :
    IsGreatest {midnight : Instant | midnight.IsMidnight ∧ midnight ≤ now} now.startOfDay ∧
      now.startOfDay.startOfDay = now.startOfDay ∧
      (∀ later, now ≤ later → now.startOfDay ≤ later.startOfDay) ∧
      ((fresh id start stop discount).check now = some .notYetActive ↔ now.date < start.date) ∧
      ((fresh id start stop discount).check now = some .expired ↔
        ¬ now.date < start.date ∧ ¬ now.date < stop.date) ∧
      ((fresh id start stop discount).check now = none ↔
        start.date ≤ now.date ∧ now.date < stop.date) := by
  refine ⟨now.isGreatest_startOfDay, now.startOfDay_startOfDay, fun later => Instant.startOfDay_mono, ?_⟩
  have hbegun : start.date ≤ now.date ↔ ¬ now.date < start.date := Iff.rfl
  rw [check_fresh, hbegun]
  by_cases hearly : now.date < start.date
  · simp [hearly]
  · by_cases hopen : now.date < stop.date
    · simp [hearly, hopen]
    · simp [hearly, hopen]

/-- A window from the first day that there is up to a New Year before which there was a leap second, seen
from that leap second and from the last one that there can be, and one that has not begun by the year
−262143. -/
theorem window_by_dates_leap_second :
    let first : Instant :=
      ⟨firstDay, 43200, 1, by decide, by decide, by decide, by decide, by decide⟩
    let leap : Instant :=
      ⟨17166, 86399, 1999999999, by decide, by decide, by decide, by decide, by decide⟩
    let newYear : Instant :=
      ⟨17167, 3600, 0, by decide, by decide, by decide, by decide, by decide⟩
    let last : Instant :=
      ⟨lastDay, 86399, 1999999999, by decide, by decide, by decide, by decide, by decide⟩
    leap.date = ⟨2016, 12, 31⟩ ∧ newYear.date = ⟨2017, 1, 1⟩ ∧
      leap ≤ last ∧ leap.startOfDay ≤ last.startOfDay ∧
      (fresh "a" first newYear discountBound).check leap = none ∧
      (fresh "a" first newYear discountBound).check last = some .expired ∧
      (fresh "a" leap newYear discountBound).check first = some .notYetActive := by
  intro first leap newYear last
  have hle : leap ≤ last := by decide
  obtain ⟨-, -, hmono, -, -, hopen⟩ := window_by_dates "a" first newYear discountBound leap
  obtain ⟨-, -, -, -, hover, -⟩ := window_by_dates "a" first newYear discountBound last
  obtain ⟨-, -, -, hearly, -, -⟩ := window_by_dates "a" leap newYear discountBound first
  refine ⟨by decide +kernel, by decide +kernel, hle, hmono last hle, hopen.mpr ?_, hover.mpr ?_,
    hearly.mpr ?_⟩
  · exact ⟨by decide +kernel, by decide +kernel⟩
  · exact ⟨by decide +kernel, by decide +kernel⟩
  · decide +kernel

end TodoPromo.PromoCode
