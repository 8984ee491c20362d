import Mathlib.Algebra.Order.Field.Power
import Mathlib.Data.Rat.Cast.Order
import Mathlib.Tactic.FieldSimp
import Mathlib.Tactic.Linarith
import Mathlib.Tactic.NormNum
import Mathlib.Tactic.Positivity
import Mathlib.Tactic.Ring
import TodoPromo.Binary.Format

/-! # Rounding to a format

What `Format.nearest` comes to, in fractions. The numbers of a format around `v` are spaced by a power of
two that `v` determines (`Format.Spaces`), and the number that is taken is off by half of that at most. So
the rounding is close in proportion to `v` (`nearest_close`), and all numbers between the middles of the
gaps around a number of the format are rounded to it (`nearest_eq`). -/

namespace TodoPromo
namespace Binary

/-! ### Quotients -/

theorem divPow_den_pos (num : Nat) {den : Nat} (hden : 0 < den) (q : Int) : 0 < (divPow num den q).2 := by
  unfold divPow
  split
  · exact Nat.mul_pos hden (Nat.pow_pos (by decide))
  · exact hden

theorem divPow_quotient (num den : Nat) (q : Int) :
    ((divPow num den q).1 : ℚ) / (divPow num den q).2 = num / den / 2 ^ q := by
  unfold divPow
  split
  · rename_i hq
    obtain ⟨n, rfl⟩ := Int.eq_ofNat_of_zero_le hq
    simp only [Int.toNat_natCast, Nat.pow_eq, zpow_natCast]
    push_cast
    rw [div_div]
  · rename_i hq
    obtain ⟨n, rfl⟩ : ∃ n : Nat, q = -(n : Int) := ⟨(-q).toNat, by omega⟩
    simp only [Int.neg_neg, Int.toNat_natCast, Nat.pow_eq, zpow_neg, zpow_natCast, div_inv_eq_mul]
    push_cast
    ring

theorem roundDiv_close (num : Nat) {den : Nat} (hden : 0 < den) :
    |(roundDiv num den : ℚ) - num / den| ≤ 1 / 2 := by
  have hden' : (0 : ℚ) < den := Nat.cast_pos.mpr hden
  have hnum : (num : ℚ) = den * (num / den : Nat) + (num % den : Nat) := by
    exact_mod_cast (Nat.div_add_mod num den).symm
  have hmod : ((num % den : Nat) : ℚ) < den := Nat.cast_lt.mpr (Nat.mod_lt num hden)
  unfold roundDiv
  dsimp only
  generalize num / den = n at *
  generalize num % den = r at *
  have hquotient : (num : ℚ) / den = n + r / den := by
    rw [hnum, add_div, mul_div_cancel_left₀ _ hden'.ne']
  rw [hquotient, abs_le]
  split
  · rename_i hdown
    have htwice : (2 * r : ℚ) ≤ den := by
      have hle : 2 * r ≤ den := by
        simp only [Bool.or_eq_true, Bool.and_eq_true, decide_eq_true_eq, beq_iff_eq] at hdown
        omega
      exact_mod_cast hle
    have hpart : (r : ℚ) / den ≤ 1 / 2 := by
      rw [div_le_div_iff₀ hden' two_pos]
      linarith
    have hpart' : (0 : ℚ) ≤ r / den := by positivity
    constructor <;> linarith
  · rename_i hup
    have htwice : (den : ℚ) ≤ 2 * r := by
      have hle : den ≤ 2 * r := by
        simp only [Bool.or_eq_true, Bool.and_eq_true, decide_eq_true_eq, beq_iff_eq] at hup
        omega
      exact_mod_cast hle
    have hpart : (1 : ℚ) / 2 ≤ r / den := by
      rw [div_le_div_iff₀ two_pos hden']
      linarith
    have hpart' : (r : ℚ) / den < 1 := (div_lt_one hden').mpr hmod
    push_cast
    constructor <;> linarith

theorem num_pos_of_quotient {num den : Nat} (h : (0 : ℚ) < num / den) : 0 < num := by
  rcases Nat.eq_zero_or_pos num with rfl | hpos
  · rw [Nat.cast_zero, zero_div] at h
    exact absurd h (lt_irrefl 0)
  · exact hpos

theorem eq_of_close {m m' : Nat} {v : ℚ} (h' : |(m' : ℚ) - v| ≤ 1 / 2) (hlow : (m : ℚ) - 1 / 2 < v)
    (hhigh : v < m + 1 / 2) : m' = m := by
  rw [abs_le] at h'
  have hlt : (m' : ℚ) < (m + 1 : Nat) := by push_cast; linarith
  have hgt : (m : ℚ) < (m' + 1 : Nat) := by push_cast; linarith
  rw [Nat.cast_lt] at hlt hgt
  omega

/-! ### Spacing -/

/-- The number itself. -/
def Scaled.value (d : Scaled) : ℚ := d.mantissa * 2 ^ d.exponent

theorem Scaled.toQuotient_value (d : Scaled) :
    0 < d.toQuotient.2 ∧ (d.toQuotient.1 : ℚ) / d.toQuotient.2 = d.value := by
  refine ⟨divPow_den_pos _ Nat.one_pos _, ?_⟩
  unfold toQuotient
  rw [divPow_quotient, Nat.cast_one, div_one, zpow_neg, div_inv_eq_mul]
  rfl

theorem Scaled.div_quotient (a : Scaled) {b : Scaled} (hb : 0 < b.mantissa) :
    0 < (divPow a.mantissa b.mantissa (b.exponent - a.exponent)).2 ∧
      ((divPow a.mantissa b.mantissa (b.exponent - a.exponent)).1 : ℚ) /
        (divPow a.mantissa b.mantissa (b.exponent - a.exponent)).2 = a.value / b.value := by
  refine ⟨divPow_den_pos _ hb _, ?_⟩
  rw [divPow_quotient, zpow_sub₀ two_ne_zero, value, value]
  field_simp

namespace Format

/-- Around `v` the numbers of the format are the multiples of `2 ^ q`. -/
structure Spaces (F : Format) (q : Int) (v : ℚ) : Prop where
  least_le : F.least ≤ q
  lt : v < 2 ^ (q + F.precision)
  le : q = F.least ∨ 2 ^ (q + F.precision - 1) ≤ v

theorem Spaces.unique {F : Format} {q q' : Int} {v : ℚ} (h : F.Spaces q v) (h' : F.Spaces q' v) :
    q = q' := by
  have hle : ∀ {q q' : Int}, F.Spaces q v → F.Spaces q' v → q' ≤ q := by
    intro q q' h h'
    rcases h'.le with rfl | hle
    · exact h.least_le
    · have hlt := (zpow_lt_zpow_iff_right₀ (one_lt_two (α := ℚ))).mp (lt_of_le_of_lt hle h.lt)
      omega
  exact Int.le_antisymm (hle h' h) (hle h h')

theorem log2_bounds {n : Nat} (h : 0 < n) : (2 : ℚ) ^ (n.log2 : Int) ≤ n ∧ (n : ℚ) < 2 ^ (n.log2 + 1 : Int) := by
  have hle : 2 ^ n.log2 ≤ n := Nat.log2_self_le (Nat.ne_of_gt h)
  have hlt : n < 2 ^ (n.log2 + 1) := Nat.lt_log2_self
  constructor
  · rw [zpow_natCast]
    exact_mod_cast hle
  · have hexponent : (n.log2 + 1 : Int) = ((n.log2 + 1 : Nat) : Int) := by push_cast; rfl
    rw [hexponent, zpow_natCast]
    exact_mod_cast hlt

theorem spacing_spaces (F : Format) {num den : Nat} (hnum : 0 < num) (hden : 0 < den) :
    F.Spaces (F.spacing num den) (num / den) := by
  obtain ⟨hnum_le, hnum_lt⟩ := log2_bounds hnum
  obtain ⟨hden_le, hden_lt⟩ := log2_bounds hden
  have hden' : (0 : ℚ) < den := Nat.cast_pos.mpr hden
  have hlow : (2 : ℚ) ^ ((num.log2 : Int) - den.log2 - 1) ≤ num / den := by
    rw [le_div_iff₀ hden']
    calc (2 : ℚ) ^ ((num.log2 : Int) - den.log2 - 1) * den
        ≤ 2 ^ ((num.log2 : Int) - den.log2 - 1) * 2 ^ (den.log2 + 1 : Int) := by gcongr
      _ = 2 ^ (num.log2 : Int) := by rw [← zpow_add₀ two_ne_zero]; congr 1; omega
      _ ≤ num := hnum_le
  have hhigh : (num / den : ℚ) < 2 ^ ((num.log2 : Int) - den.log2 + 1) := by
    rw [div_lt_iff₀ hden']
    calc (num : ℚ) < 2 ^ (num.log2 + 1 : Int) := hnum_lt
      _ = 2 ^ ((num.log2 : Int) - den.log2 + 1) * 2 ^ (den.log2 : Int) := by
        rw [← zpow_add₀ two_ne_zero]; congr 1; omega
      _ ≤ 2 ^ ((num.log2 : Int) - den.log2 + 1) * den := by gcongr
  unfold spacing
  dsimp only
  generalize hq : max F.least ((num.log2 : Int) - den.log2 - F.precision) = q
  have hlt_iff : (divPow num den q).1 / (divPow num den q).2 < Nat.pow 2 F.precision ↔
      (num / den : ℚ) < 2 ^ (q + F.precision) := by
    have hpos := divPow_den_pos num hden q
    rw [Nat.div_lt_iff_lt_mul hpos, zpow_add₀ two_ne_zero, zpow_natCast, ← div_lt_iff₀' (by positivity),
      ← divPow_quotient, div_lt_iff₀ (Nat.cast_pos.mpr hpos)]
    exact_mod_cast Iff.rfl
  split
  · rename_i hlt
    refine ⟨by omega, hlt_iff.mp hlt, ?_⟩
    by_cases hleast : q = F.least
    · exact .inl hleast
    · refine .inr (le_trans (zpow_le_zpow_right₀ one_le_two ?_) hlow)
      omega
  · rename_i hge
    rw [hlt_iff, not_lt] at hge
    refine ⟨by omega, lt_of_lt_of_le hhigh (zpow_le_zpow_right₀ one_le_two (by omega)), .inr ?_⟩
    have hexponent : q + 1 + F.precision - 1 = q + F.precision := by omega
    rw [hexponent]
    exact hge

/-! ### The closest number -/

/-- The multiple `m · 2 ^ q` as a number of the format, where `m` may have become one digit too long by
rounding. -/
def carry (F : Format) (m : Nat) (q : Int) : Option Scaled :=
  let d : Scaled := if m < Nat.pow 2 F.precision then ⟨m, q⟩ else ⟨m / 2, q + 1⟩
  if d.exponent ≤ F.greatest then some d else none

theorem carry_of_lt {F : Format} {m : Nat} {q : Int} (hm : m < 2 ^ F.precision) (hq : q ≤ F.greatest) :
    F.carry m q = some ⟨m, q⟩ := by
  unfold carry
  dsimp only
  rw [if_pos (show m < Nat.pow 2 F.precision from hm), if_pos hq]

theorem carry_full {F : Format} {q : Int} (hprecision : 0 < F.precision) (hq : q + 1 ≤ F.greatest) :
    F.carry (2 ^ F.precision) q = some ⟨2 ^ (F.precision - 1), q + 1⟩ := by
  have hfull : ¬ 2 ^ F.precision < Nat.pow 2 F.precision := Nat.lt_irrefl _
  have hhalf : 2 ^ F.precision / 2 = 2 ^ (F.precision - 1) := Nat.pow_div hprecision two_pos
  unfold carry
  dsimp only
  rw [if_neg hfull, if_pos hq, hhalf]

theorem value_carry {F : Format} {m : Nat} {q : Int} (hprecision : 0 < F.precision)
    (hm : m ≤ 2 ^ F.precision) (hq : q + 1 ≤ F.greatest) :
    ∃ d, F.carry m q = some d ∧ d.value = m * 2 ^ q := by
  rcases Nat.lt_or_eq_of_le hm with hlt | rfl
  · exact ⟨_, carry_of_lt hlt (by omega), rfl⟩
  · refine ⟨_, carry_full hprecision hq, ?_⟩
    obtain ⟨p, hp⟩ := Nat.exists_eq_succ_of_ne_zero (Nat.ne_of_gt hprecision)
    unfold Scaled.value
    rw [hp, Nat.succ_sub_one, zpow_add_one₀ two_ne_zero, Nat.pow_succ]
    push_cast
    ring

/-- The number that is taken is a multiple of the spacing, the one that the quotient is rounded to. -/
theorem nearest_of_spaces {F : Format} {num den : Nat} {q : Int} (hnum : 0 < num) (hden : 0 < den)
    (h : F.Spaces q (num / den)) :
    ∃ m : Nat, m ≤ 2 ^ F.precision ∧ |(m : ℚ) - num / den / 2 ^ q| ≤ 1 / 2 ∧
      F.nearest num den = F.carry m q := by
  obtain rfl := (F.spacing_spaces hnum hden).unique h
  have hclose := roundDiv_close (divPow num den (F.spacing num den)).1
    (divPow_den_pos num hden (F.spacing num den))
  rw [divPow_quotient] at hclose
  refine ⟨_, ?_, hclose, ?_⟩
  · rw [abs_le] at hclose
    have hlt : (num / den : ℚ) / 2 ^ F.spacing num den < 2 ^ F.precision := by
      have hlt := h.lt
      rw [zpow_add₀ two_ne_zero, zpow_natCast, mul_comm] at hlt
      rwa [div_lt_iff₀ (by positivity)]
    have hround : (roundDiv (divPow num den (F.spacing num den)).1
        (divPow num den (F.spacing num den)).2 : ℚ) < (2 ^ F.precision + 1 : Nat) := by
      push_cast
      linarith
    exact Nat.lt_succ_iff.mp (Nat.cast_lt.mp hround)
  · unfold nearest
    rw [if_neg (Nat.ne_of_gt hnum)]
    rfl

/-- Between the middles around a multiple of the spacing that multiple is taken. -/
theorem nearest_of_within {F : Format} {num den m : Nat} {q : Int} (hden : 0 < den)
    (hpos : (0 : ℚ) < num / den) (h : F.Spaces q (num / den)) (hlow : (m - 1 / 2) * 2 ^ q < (num / den : ℚ))
    (hhigh : (num / den : ℚ) < (m + 1 / 2) * 2 ^ q) : F.nearest num den = F.carry m q := by
  have hq : (0 : ℚ) < 2 ^ q := by positivity
  obtain ⟨m', -, hclose, hnearest⟩ := nearest_of_spaces (num_pos_of_quotient hpos) hden h
  rw [← lt_div_iff₀ hq] at hlow
  rw [← div_lt_iff₀ hq] at hhigh
  rw [hnearest, eq_of_close hclose hlow hhigh]

/-- In the range of the format, without its smallest numbers, rounding is off by one part in
`2 ^ precision` at most. -/
theorem nearest_close {F : Format} (hprecision : 0 < F.precision) {num den : Nat} (hden : 0 < den)
    (hlow : 2 ^ (F.least + F.precision - 1) ≤ (num / den : ℚ))
    (hhigh : (num / den : ℚ) < 2 ^ (F.greatest + F.precision - 1)) :
    ∃ d, F.nearest num den = some d ∧ |d.value - num / den| ≤ num / den / 2 ^ F.precision := by
  have hv : (0 : ℚ) < num / den := lt_of_lt_of_le (by positivity) hlow
  have hnum : 0 < num := num_pos_of_quotient hv
  have hspaces := F.spacing_spaces hnum hden
  obtain ⟨m, hm, hclose, hnearest⟩ := nearest_of_spaces hnum hden hspaces
  generalize F.spacing num den = q at *
  have hunit : (2 : ℚ) ^ (q + F.precision - 1) ≤ num / den := by
    rcases hspaces.le with rfl | hle
    · exact hlow
    · exact hle
  have hfits : q + 1 ≤ F.greatest := by
    have hlt := (zpow_lt_zpow_iff_right₀ (one_lt_two (α := ℚ))).mp (lt_of_le_of_lt hunit hhigh)
    omega
  obtain ⟨d, hd, hvalue⟩ := value_carry hprecision hm hfits
  refine ⟨d, hnearest.trans hd, ?_⟩
  have hq : (0 : ℚ) < 2 ^ q := by positivity
  calc |d.value - num / den| = |(m : ℚ) - num / den / 2 ^ q| * 2 ^ q := by
        rw [hvalue, ← abs_of_pos hq, ← abs_mul, abs_of_pos hq, sub_mul, div_mul_cancel₀ _ hq.ne']
    _ ≤ 1 / 2 * 2 ^ q := by gcongr
    _ = 2 ^ (q + F.precision - 1) / 2 ^ F.precision := by
        rw [zpow_sub_one₀ two_ne_zero, zpow_add₀ two_ne_zero, zpow_natCast]
        field_simp
    _ ≤ num / den / 2 ^ F.precision := by gcongr

theorem nearest_natCast {F : Format} (hprecision : 0 < F.precision) (hleast : F.least ≤ 0)
    (hgreatest : 1 ≤ F.greatest) {n : Nat} (hpos : 0 < n) (hn : n < 2 ^ F.precision) :
    ∃ d, F.nearest n 1 = some d ∧ d.value = n := by
  have hspaces := F.spacing_spaces hpos Nat.one_pos
  generalize F.spacing n 1 = q at hspaces
  have hone : (n : ℚ) / (1 : Nat) = n := by rw [Nat.cast_one, div_one]
  have hq : q ≤ 0 := by
    rcases hspaces.le with rfl | hle
    · exact hleast
    · have hlt : (n : ℚ) < 2 ^ (F.precision : Int) := by
        rw [zpow_natCast]
        exact_mod_cast hn
      rw [hone] at hle
      have hexponent := (zpow_lt_zpow_iff_right₀ (one_lt_two (α := ℚ))).mp (lt_of_le_of_lt hle hlt)
      omega
  obtain ⟨k, rfl⟩ : ∃ k : Nat, q = -(k : Int) := ⟨(-q).toNat, by omega⟩
  have hunit : (0 : ℚ) < 2 ^ (-(k : Int)) := by positivity
  have hvalue : ((n * 2 ^ k : Nat) : ℚ) * 2 ^ (-(k : Int)) = n := by
    rw [zpow_neg, zpow_natCast, Nat.cast_mul, Nat.cast_pow, Nat.cast_ofNat,
      mul_inv_cancel_right₀ (by positivity)]
  have hfits : n * 2 ^ k ≤ 2 ^ F.precision := by
    have hlt := hspaces.lt
    rw [hone, ← hvalue, zpow_add₀ two_ne_zero, mul_comm, zpow_natCast] at hlt
    exact_mod_cast (lt_of_mul_lt_mul_left hlt hunit.le).le
  have hnearest : F.nearest n 1 = F.carry (n * 2 ^ k) (-(k : Int)) := by
    refine nearest_of_within Nat.one_pos (by positivity) hspaces ?_ ?_
    · rw [hone, sub_mul, hvalue]
      linarith
    · rw [hone, add_mul, hvalue]
      linarith
  obtain ⟨d, hd, hd_value⟩ := value_carry (q := -(k : Int)) hprecision hfits (by omega)
  exact ⟨d, hnearest.trans hd, hd_value.trans hvalue⟩

/-! ### Numbers of the format -/

/-- A number of the format as it is spelled: with an integer of full length, unless it is one of the
smallest. -/
structure Holds (F : Format) (d : Scaled) : Prop where
  lt : d.mantissa < 2 ^ F.precision
  least_le : F.least ≤ d.exponent
  le_greatest : d.exponent ≤ F.greatest
  full : d.exponent = F.least ∨ 2 ^ (F.precision - 1) ≤ d.mantissa

/-- The gap below a number is half as wide as the one above it if the number is a power of two, and not
one of the smallest. -/
def Narrow (F : Format) (d : Scaled) : Prop :=
  d.mantissa = 2 ^ (F.precision - 1) ∧ F.least < d.exponent

instance (F : Format) (d : Scaled) : Decidable (F.Narrow d) := inferInstanceAs (Decidable (_ ∧ _))

/-- The middle of the gap below a number. -/
def lower (F : Format) (d : Scaled) : ℚ :=
  (4 * d.mantissa - if F.Narrow d then 1 else 2) * 2 ^ (d.exponent - 2)

/-- The middle of the gap above a number. -/
def upper (d : Scaled) : ℚ := (4 * d.mantissa + 2) * 2 ^ (d.exponent - 2)

theorem two_pow_quarters (q : Int) : (2 : ℚ) ^ q = 4 * 2 ^ (q - 2) := by
  rw [zpow_sub₀ two_ne_zero]
  norm_num
  ring

theorem upper_eq (m : Nat) (q : Int) : upper ⟨m, q⟩ = (m + 1 / 2) * 2 ^ q := by
  rw [two_pow_quarters q, upper]
  ring

theorem lower_of_not_narrow {F : Format} {m : Nat} {q : Int} (h : ¬ F.Narrow ⟨m, q⟩) :
    F.lower ⟨m, q⟩ = (m - 1 / 2) * 2 ^ q := by
  rw [two_pow_quarters q, lower, if_neg h]
  ring

theorem lower_of_narrow {F : Format} {m : Nat} {q : Int} (h : F.Narrow ⟨m, q⟩) :
    F.lower ⟨m, q⟩ = (m - 1 / 4) * 2 ^ q := by
  rw [two_pow_quarters q, lower, if_pos h]
  ring

theorem le_lower (F : Format) (m : Nat) (q : Int) : ((m : ℚ) - 1 / 2) * 2 ^ q ≤ F.lower ⟨m, q⟩ := by
  by_cases h : F.Narrow ⟨m, q⟩
  · rw [lower_of_narrow h]
    gcongr
    norm_num
  · rw [lower_of_not_narrow h]

/-- Just below a power of two the numbers are closer together, and the power is still the closest one. -/
theorem nearest_below_power {F : Format} (hprecision : 0 < F.precision) {q : Int} (hleast : F.least < q)
    (hgreatest : q ≤ F.greatest) {num den : Nat} (hden : 0 < den)
    (hlow : (2 ^ (F.precision - 1) - 1 / 4) * 2 ^ q < (num / den : ℚ))
    (hhigh : (num / den : ℚ) < 2 ^ (F.precision - 1) * 2 ^ q) :
    F.nearest num den = some ⟨2 ^ (F.precision - 1), q⟩ := by
  have hprev : (0 : ℚ) < 2 ^ (q - 1) := by positivity
  have hdouble : (2 : ℚ) ^ q = 2 * 2 ^ (q - 1) := by
    rw [zpow_sub_one₀ two_ne_zero]
    field_simp
  have hpower : ((2 ^ F.precision : Nat) : ℚ) = 2 * 2 ^ (F.precision - 1) := by
    rw [← pow_succ', Nat.sub_add_cancel hprecision]
    push_cast
    rfl
  have htop : (2 : ℚ) ^ (q - 1 + F.precision) = 2 * 2 ^ (F.precision - 1) * 2 ^ (q - 1) := by
    rw [zpow_add₀ two_ne_zero, zpow_natCast, mul_comm, ← hpower]
    push_cast
    rfl
  have hone : (1 : ℚ) ≤ 2 ^ (F.precision - 1) := one_le_pow₀ one_le_two
  rw [hdouble] at hlow hhigh
  have hv : (0 : ℚ) < num / den := by
    refine lt_trans ?_ hlow
    have hpos : (0 : ℚ) < 2 ^ (F.precision - 1) - 1 / 4 := by linarith
    positivity
  have hspaces : F.Spaces (q - 1) (num / den) := by
    refine ⟨by omega, by rw [htop]; linarith, .inr ?_⟩
    rw [zpow_sub_one₀ two_ne_zero, htop]
    nlinarith
  have hnearest : F.nearest num den = F.carry (2 ^ F.precision) (q - 1) := by
    refine nearest_of_within hden hv hspaces ?_ ?_
    · rw [hpower]
      linarith
    · rw [hpower]
      linarith
  rw [hnearest, carry_full hprecision (by omega), Int.sub_add_cancel]

/-- Strictly between the middles of the gaps around a number the number is the closest one. -/
theorem nearest_eq {F : Format} (hprecision : 0 < F.precision) {d : Scaled} (hd : F.Holds d)
    (hpos : 0 < d.mantissa) {num den : Nat} (hden : 0 < den) (hlow : F.lower d < num / den)
    (hhigh : (num / den : ℚ) < upper d) : F.nearest num den = some d := by
  obtain ⟨m, q⟩ := d
  obtain ⟨hlt, hleast, hgreatest, hfull⟩ := hd
  dsimp only at hlt hleast hgreatest hfull hpos
  rw [upper_eq] at hhigh
  have hhalf := lt_of_le_of_lt (F.le_lower m q) hlow
  have hone : (1 : ℚ) ≤ m := by exact_mod_cast hpos
  have hm : (m : ℚ) + 1 ≤ 2 ^ F.precision := by exact_mod_cast hlt
  have hq : (0 : ℚ) < 2 ^ q := by positivity
  have hv : (0 : ℚ) < num / den := lt_trans (mul_pos (by linarith) hq) hhalf
  by_cases hsame : q = F.least ∨ 2 ^ (q + F.precision - 1) ≤ (num / den : ℚ)
  · -- the numbers around the quotient are spaced as the number itself is
    have hspaces : F.Spaces q (num / den) := by
      refine ⟨hleast, lt_trans hhigh ?_, hsame⟩
      rw [zpow_add₀ two_ne_zero, zpow_natCast, mul_comm]
      gcongr
      linarith
    rw [nearest_of_within hden hv hspaces hhalf hhigh, carry_of_lt hlt hgreatest]
  · -- the quotient is below the power of two that the number must be
    obtain ⟨hne, hbelow⟩ := not_or.mp hsame
    have hpower : (2 : ℚ) ^ (q + F.precision - 1) = 2 ^ (F.precision - 1) * 2 ^ q := by
      rw [← zpow_natCast, ← zpow_add₀ two_ne_zero, Nat.cast_sub hprecision]
      congr 1
      push_cast
      ring
    rw [not_le, hpower] at hbelow
    obtain rfl : m = 2 ^ (F.precision - 1) := by
      have hle := hfull.resolve_left hne
      have hlt := lt_of_mul_lt_mul_right (lt_trans hhalf hbelow) hq.le
      have hlt' : (m : ℚ) < (2 ^ (F.precision - 1) + 1 : Nat) := by push_cast; linarith
      rw [Nat.cast_lt] at hlt'
      omega
    have hnarrow : F.Narrow ⟨2 ^ (F.precision - 1), q⟩ := ⟨rfl, by dsimp only; omega⟩
    rw [lower_of_narrow hnarrow] at hlow
    push_cast at hlow
    exact nearest_below_power hprecision hnarrow.2 hgreatest hden hlow hbelow

end Format
end Binary

/-! ### Numbers of 32 bits -/

namespace Single

open Binary

theorem holds_magnitude {x : Single} (h : x.isFinite = true) : Format.single.Holds x.magnitude := by
  have hbits : x.magnitudeBits < 0x7F800000 := of_decide_eq_true h
  unfold magnitude
  dsimp only
  split
  · exact ⟨by simp only [Format.single]; omega, by simp [Format.single], by simp [Format.single],
      .inl rfl⟩
  · exact ⟨by simp only [Format.single]; omega, by simp only [Format.single]; omega,
      by simp only [Format.single]; omega, .inr (by simp only [Format.single]; omega)⟩

theorem bitsOf_magnitude (x : Single) : bitsOf x.magnitude = x.magnitudeBits := by
  unfold magnitude
  dsimp only
  split
  · rw [bitsOf, if_pos (by dsimp only; omega)]
    dsimp only
    omega
  · rw [bitsOf, if_neg (by dsimp only; omega)]
    dsimp only
    omega

theorem ofMagnitude_magnitude (x : Single) : ofMagnitude x.negative (some x.magnitude) = x := by
  have hbits : x.bits.toNat < 2 ^ 32 := x.bits.toNat_lt
  have hsign : (if x.negative = true then 0x80000000 else 0) + x.magnitudeBits = x.bits.toNat := by
    have hnegative : x.negative = true ↔ 0x80000000 ≤ x.bits.toNat :=
      decide_eq_true_iff.trans UInt32.le_iff_toNat_le
    unfold magnitudeBits
    split
    · rename_i h
      rw [hnegative] at h
      omega
    · rename_i h
      rw [hnegative] at h
      omega
  unfold ofMagnitude
  dsimp only
  rw [bitsOf_magnitude, hsign, UInt32.ofNat_toNat]

/-- What lies strictly between the middles of the gaps around a number is rounded to that number. -/
theorem ofScaled_eq {x : Single} (hfinite : x.isFinite = true) (hpos : 0 < x.magnitude.mantissa)
    {y : Scaled} (hlow : Format.single.lower x.magnitude < y.value)
    (hhigh : y.value < Format.upper x.magnitude) : ofScaled x.negative y = x := by
  obtain ⟨hden, hquotient⟩ := y.toQuotient_value
  have hround : y.round .single = some x.magnitude :=
    Format.nearest_eq (by decide) (holds_magnitude hfinite) hpos hden (hlow.trans_eq hquotient.symm)
      (hquotient.trans_lt hhigh)
  rw [ofScaled, hround, ofMagnitude_magnitude]

end Single
end TodoPromo
