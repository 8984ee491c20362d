import Mathlib.Order.Bounds.Defs
import TodoPromo.Proofs.Time.Calendar

/-! # The order of instants

Instants are totally ordered, and compare with a midnight as their days do (`lt_midnight_iff`). So the
beginning of a day is the greatest midnight that is not after an instant of it (`isGreatest_startOfDay`). -/

namespace TodoPromo.Time.Instant

variable {a b c : Instant}

theorem not_lt : ¬ a < b ↔ b ≤ a := Iff.rfl

theorem le_refl (a : Instant) : a ≤ a := by
  change ¬ Before a a
  unfold Before
  omega

theorem le_trans (hab : a ≤ b) (hbc : b ≤ c) : a ≤ c := by
  change ¬ Before b a at hab
  change ¬ Before c b at hbc
  change ¬ Before c a
  unfold Before at *
  omega

theorem lt_of_le_of_lt (hab : a ≤ b) (hbc : b < c) : a < c := by
  change ¬ Before b a at hab
  change Before b c at hbc
  change Before a c
  unfold Before at *
  omega

theorem day_le_of_le (h : a ≤ b) : a.day ≤ b.day := by
  change ¬ Before b a at h
  unfold Before at h
  omega

/-! ### Midnights -/

/-- The instant at which a day begins. -/
def IsMidnight (a : Instant) : Prop := a.second = 0 ∧ a.nano = 0

theorem eq_of_midnights (ha : a.IsMidnight) (hb : b.IsMidnight) (h : a.day = b.day) : a = b := by
  obtain ⟨hsecond, hnano⟩ := ha
  obtain ⟨hsecond', hnano'⟩ := hb
  cases a
  cases b
  simp_all

theorem startOfDay_of_midnight (h : a.IsMidnight) : a.startOfDay = a :=
  eq_of_midnights ⟨rfl, rfl⟩ h rfl

theorem lt_midnight_iff (h : b.IsMidnight) : a < b ↔ a.day < b.day := by
  obtain ⟨hsecond, hnano⟩ := h
  change Before a b ↔ _
  unfold Before
  omega

theorem midnight_le_iff (h : b.IsMidnight) : b ≤ a ↔ b.day ≤ a.day := by
  rw [← not_lt, lt_midnight_iff h, Int.not_lt]

theorem isMidnight_startOfDay (a : Instant) : a.startOfDay.IsMidnight := ⟨rfl, rfl⟩

/-- The beginning of the day of an instant is the greatest midnight that is not after it. -/
theorem isGreatest_startOfDay (a : Instant) :
    IsGreatest {b : Instant | b.IsMidnight ∧ b ≤ a} a.startOfDay := by
  constructor
  · exact ⟨a.isMidnight_startOfDay, (midnight_le_iff a.isMidnight_startOfDay).mpr (Int.le_refl _)⟩
  · rintro b ⟨hb, hle⟩
    have hday : b.day ≤ a.day := day_le_of_le hle
    exact (midnight_le_iff hb).mpr hday

theorem startOfDay_mono (h : a ≤ b) : a.startOfDay ≤ b.startOfDay := by
  have hday : a.day ≤ b.day := day_le_of_le h
  exact (midnight_le_iff a.isMidnight_startOfDay).mpr hday

theorem midnight?_eq_some {day : Int} (h : firstDay ≤ day ∧ day ≤ lastDay) :
    ∃ a, midnight? day = some a ∧ a.day = day ∧ a.IsMidnight := by
  unfold midnight?
  rw [dif_pos h]
  exact ⟨_, rfl, rfl, rfl, rfl⟩

end TodoPromo.Time.Instant
