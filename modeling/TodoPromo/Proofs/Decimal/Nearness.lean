import TodoPromo.Proofs.Binary.Rounding
import TodoPromo.Proofs.Decimal.Leading

/-! # How near a shortest decimal is

The shortest decimal of a number lies in the interval of the numbers that are rounded to it, its ends
included, and has few digits; and if it needs more digits than the format itself, it keeps away from the
ends of the interval (`shortest_within`). For on a grid that is finer than the format the decimal that is
taken is the closest one (`Interval.neighbour?_close`), so it is off by half a step of the grid at most,
and the ends are further away than that. -/

namespace TodoPromo.Decimal

open Binary

/-- The number itself. -/
def Scientific.value (s : Scientific) : ℚ := s.digits * 10 ^ s.exponent

/-! ### The interval -/

section
variable {F : Format} {d : Scaled}

theorem den_around (F : Format) (d : Scaled) : 0 < (Interval.around F d).den :=
  divPow_den_pos 1 Nat.one_pos (2 - d.exponent)

theorem unit_around (n : Nat) (d : Scaled) :
    ((n * (divPow 1 1 (2 - d.exponent)).1 : Nat) : ℚ) / (divPow 1 1 (2 - d.exponent)).2 =
      n * 2 ^ (d.exponent - 2) := by
  have hunit := divPow_quotient 1 1 (2 - d.exponent)
  have hexponent : d.exponent - 2 = -(2 - d.exponent) := by ring
  rw [hexponent, zpow_neg, Nat.cast_mul, mul_div_assoc, hunit]
  norm_num

theorem value_around (F : Format) (d : Scaled) :
    ((Interval.around F d).value : ℚ) / (Interval.around F d).den = d.value := by
  refine (unit_around (4 * d.mantissa) d).trans ?_
  rw [Scaled.value, Format.two_pow_quarters d.exponent]
  push_cast
  ring

theorem high_around (F : Format) (d : Scaled) :
    ((Interval.around F d).high : ℚ) / (Interval.around F d).den = Format.upper d := by
  refine (unit_around (4 * d.mantissa + 2) d).trans ?_
  rw [Format.upper]
  push_cast
  rfl

theorem low_around (hpos : 0 < d.mantissa) :
    ((Interval.around F d).low : ℚ) / (Interval.around F d).den = F.lower d := by
  have hnarrow : (d.mantissa == Nat.pow 2 (F.precision - 1) && decide (F.least < d.exponent)) = true ↔
      F.Narrow d := by
    rw [Bool.and_eq_true, beq_iff_eq, decide_eq_true_eq]
    rfl
  refine (unit_around _ d).trans ?_
  rw [Format.lower]
  congr 1
  by_cases h : F.Narrow d
  · rw [if_pos (hnarrow.mpr h), if_pos h, Nat.cast_sub (by omega)]
    push_cast
    rfl
  · rw [if_neg (mt hnarrow.mp h), if_neg h, Nat.cast_sub (by omega)]
    push_cast
    rfl

theorem gaps (hd : F.Holds d) (hprecision : 0 < F.precision) :
    d.value / 2 ^ (F.precision + 1) ≤ d.value - F.lower d ∧
      d.value / 2 ^ (F.precision + 1) ≤ Format.upper d - d.value := by
  obtain ⟨m, q⟩ := d
  have hq : (0 : ℚ) < 2 ^ q := by positivity
  have hm : (m : ℚ) ≤ 2 ^ F.precision := by exact_mod_cast hd.lt.le
  have hp : (0 : ℚ) < 2 ^ F.precision := by positivity
  have hvalue : Scaled.value ⟨m, q⟩ = m * 2 ^ q := rfl
  have hhalf : (m : ℚ) * 2 ^ q / 2 ^ (F.precision + 1) ≤ 1 / 2 * 2 ^ q := by
    rw [pow_succ, div_le_iff₀ (by positivity)]
    nlinarith
  rw [hvalue, Format.upper_eq]
  refine ⟨?_, by linarith⟩
  by_cases h : F.Narrow ⟨m, q⟩
  · have hm' : (m : ℚ) = 2 ^ (F.precision - 1) := by
      rw [show m = 2 ^ (F.precision - 1) from h.1]
      push_cast
      rfl
    have hquarter : (m : ℚ) * 2 ^ q / 2 ^ (F.precision + 1) = 1 / 4 * 2 ^ q := by
      have hpower : (2 : ℚ) ^ (F.precision + 1) = 4 * m := by
        rw [hm', ← Nat.sub_add_cancel hprecision, Nat.add_sub_cancel, pow_add, pow_add]
        ring
      have hm0 : (m : ℚ) ≠ 0 := by
        rw [hm']
        positivity
      rw [hpower]
      field_simp
    rw [Format.lower_of_narrow h]
    linarith
  · rw [Format.lower_of_not_narrow h]
    linarith

end

/-! ### Grids -/

namespace Interval

variable {i : Interval} {k : Int}

theorem factors_ratio (i : Interval) (k : Int) :
    ((i.factors k).1 : ℚ) = 10 ^ k * i.den * (i.factors k).2 := by
  rcases Int.lt_or_le k 0 with hneg | hpos
  · obtain ⟨n, rfl⟩ : ∃ n : Nat, k = -(n : Int) := ⟨k.natAbs, by omega⟩
    rw [factors_of_neg (by omega), zpow_neg, zpow_natCast]
    push_cast
    field_simp
  · obtain ⟨n, rfl⟩ := Int.eq_ofNat_of_zero_le hpos
    rw [factors_of_nonneg, zpow_natCast]
    push_cast
    ring

theorem factors_le (hden : 0 < i.den) (n c : Nat) :
    (n * (i.factors k).2 ≤ c * (i.factors k).1 ↔ (n : ℚ) / i.den ≤ c * 10 ^ k) ∧
      (c * (i.factors k).1 ≤ n * (i.factors k).2 ↔ (c : ℚ) * 10 ^ k ≤ n / i.den) := by
  have hden' : (0 : ℚ) < i.den := Nat.cast_pos.mpr hden
  have hf : (0 : ℚ) < (i.factors k).2 := Nat.cast_pos.mpr (factors_pos hden k).2
  have hratio := i.factors_ratio k
  have hsteps : (c : ℚ) * (i.factors k).1 = c * 10 ^ k * i.den * (i.factors k).2 := by
    rw [hratio]
    ring
  constructor
  · rw [div_le_iff₀ hden', ← mul_le_mul_iff_left₀ hf, ← hsteps]
    exact_mod_cast Iff.rfl
  · rw [le_div_iff₀ hden', ← mul_le_mul_iff_left₀ hf, ← hsteps]
    exact_mod_cast Iff.rfl

theorem within_of_contains (hden : 0 < i.den) {c : Nat} (h : i.contains c k = true) :
    (i.low : ℚ) / i.den ≤ c * 10 ^ k ∧ (c : ℚ) * 10 ^ k ≤ i.high / i.den := by
  rw [← (factors_le hden i.low c).1, ← (factors_le hden i.high c).2]
  unfold contains at h
  dsimp only at h
  split at h
  · rw [Bool.and_eq_true, decide_eq_true_eq, decide_eq_true_eq] at h
    exact h
  · rw [Bool.and_eq_true, decide_eq_true_eq, decide_eq_true_eq] at h
    exact ⟨h.1.le, h.2.le⟩

theorem contains_of_within (hden : 0 < i.den) {c : Nat} (hlow : (i.low : ℚ) / i.den < c * 10 ^ k)
    (hhigh : (c : ℚ) * 10 ^ k < i.high / i.den) : i.contains c k = true := by
  rw [← not_le, ← (factors_le hden i.low c).2, not_le] at hlow
  rw [← not_le, ← (factors_le hden i.high c).1, not_le] at hhigh
  unfold contains
  dsimp only
  split
  · rw [Bool.and_eq_true, decide_eq_true_eq, decide_eq_true_eq]
    exact ⟨hlow.le, hhigh.le⟩
  · rw [Bool.and_eq_true, decide_eq_true_eq, decide_eq_true_eq]
    exact ⟨hlow, hhigh⟩

theorem steps_le (hden : 0 < i.den) (k : Int) :
    ((i.value * (i.factors k).2 / (i.factors k).1 : Nat) : ℚ) * 10 ^ k ≤ i.value / i.den ∧
      (i.value : ℚ) / i.den < ((i.value * (i.factors k).2 / (i.factors k).1 : Nat) + 1) * 10 ^ k := by
  have hpos := (factors_pos hden k).1
  constructor
  · rw [← (factors_le hden i.value _).2]
    exact Nat.div_mul_le_self _ _
  · have hlt : i.value * (i.factors k).2 <
        (i.value * (i.factors k).2 / (i.factors k).1 + 1) * (i.factors k).1 :=
      Nat.lt_mul_of_div_lt (Nat.lt_succ_self _) hpos
    rw [← not_le, (factors_le hden i.value _).2, not_le] at hlt
    exact_mod_cast hlt

/-- Twice the part of a step is compared with the whole step as the value is with the middle. -/
theorem twice_le (hden : 0 < i.den) {c : Nat} (h : (c : ℚ) * 10 ^ k ≤ i.value / i.den) :
    (2 * (i.value * (i.factors k).2 - c * (i.factors k).1) ≤ (i.factors k).1 ↔
        (i.value : ℚ) / i.den ≤ (c + 1 / 2) * 10 ^ k) ∧
      ((i.factors k).1 ≤ 2 * (i.value * (i.factors k).2 - c * (i.factors k).1) ↔
        (c + 1 / 2 : ℚ) * 10 ^ k ≤ i.value / i.den) := by
  rw [← (factors_le hden i.value c).2] at h
  have hle : 2 * (i.value * (i.factors k).2 - c * (i.factors k).1) ≤ (i.factors k).1 ↔
      2 * i.value * (i.factors k).2 ≤ (2 * c + 1) * (i.factors k).1 := by
    rw [Nat.mul_assoc 2 i.value, Nat.add_mul, Nat.one_mul, Nat.mul_assoc 2 c]
    omega
  have hge : (i.factors k).1 ≤ 2 * (i.value * (i.factors k).2 - c * (i.factors k).1) ↔
      (2 * c + 1) * (i.factors k).1 ≤ 2 * i.value * (i.factors k).2 := by
    rw [Nat.mul_assoc 2 i.value, Nat.add_mul, Nat.one_mul, Nat.mul_assoc 2 c]
    omega
  rw [hle, hge, (factors_le hden (2 * i.value) (2 * c + 1)).1,
    (factors_le hden (2 * i.value) (2 * c + 1)).2]
  push_cast
  rw [mul_div_assoc]
  constructor <;> constructor <;> intro h <;> linarith

theorem close_of_le_middle {c step v : ℚ} (h : c * step ≤ v) (hmiddle : v ≤ (c + 1 / 2) * step) :
    |c * step - v| ≤ step / 2 := by
  rw [abs_le]
  constructor <;> linarith

theorem close_of_middle_le {c step v : ℚ} (hmiddle : (c + 1 / 2) * step ≤ v) (h : v ≤ (c + 1) * step) :
    |(c + 1) * step - v| ≤ step / 2 := by
  rw [abs_le]
  constructor <;> linarith

/-- On a grid whose half step is smaller than the gaps, the closest step is taken. -/
theorem neighbour?_close (hden : 0 < i.den)
    (hlow : 10 ^ k / 2 < (i.value : ℚ) / i.den - i.low / i.den)
    (hhigh : 10 ^ k / 2 < (i.high : ℚ) / i.den - i.value / i.den) :
    ∃ c, i.neighbour? k = some c ∧ |(c : ℚ) * 10 ^ k - i.value / i.den| ≤ 10 ^ k / 2 := by
  obtain ⟨hle, hlt⟩ := steps_le hden k
  obtain ⟨htwice_le, htwice_ge⟩ := twice_le hden hle
  unfold neighbour?
  dsimp only
  generalize i.value * (i.factors k).2 / (i.factors k).1 = c at *
  generalize 2 * (i.value * (i.factors k).2 - c * (i.factors k).1) = twice at *
  have hdown := contains_of_within (i := i) (k := k) hden (c := c)
  have hup := contains_of_within (i := i) (k := k) hden (c := c + 1)
  push_cast at hup
  generalize (i.value : ℚ) / i.den = v at *
  have hclose := close_of_le_middle hle
  have hclose' : (c + 1 / 2 : ℚ) * 10 ^ k ≤ v → |((c + 1 : Nat) : ℚ) * 10 ^ k - v| ≤ 10 ^ k / 2 := by
    intro h
    push_cast
    exact close_of_middle_le h hlt.le
  rcases le_or_gt v ((c + 1 / 2) * 10 ^ k) with hlower | hupper
  · -- the lower step is in the interval, and is left only for one that is as close
    rw [hdown (by linarith) (by linarith)]
    cases i.contains (c + 1) k with
    | false => exact ⟨c, rfl, hclose hlower⟩
    | true =>
        dsimp only
        split
        · exact ⟨c, rfl, hclose hlower⟩
        · rename_i hnot
          simp only [Bool.or_eq_true, decide_eq_true_eq, not_or] at hnot
          exact ⟨c + 1, rfl, hclose' (htwice_ge.mp (Nat.not_lt.mp hnot.1))⟩
  · -- the upper step is in the interval, and it is closer
    rw [hup (by linarith) (by linarith)]
    cases i.contains c k with
    | false => exact ⟨c + 1, rfl, hclose' hupper.le⟩
    | true =>
        have hmore : (i.factors k).1 < twice := by
          rw [← not_le, htwice_le, not_le]
          exact hupper
        dsimp only
        rw [if_neg]
        · exact ⟨c + 1, rfl, hclose' hupper.le⟩
        · simp only [Bool.or_eq_true, decide_eq_true_eq, Bool.and_eq_true, beq_iff_eq]
          omega

end Interval

/-! ### The search -/

theorem shortestFrom_eq {i : Interval} {fuel J : Nat} (hfuel : J < fuel) {k : Int}
    (h : (i.neighbour? (k - J)).isSome) :
    ∃ j ≤ J, ∃ c, i.neighbour? (k - j) = some c ∧ shortestFrom i fuel k = ⟨c, k - j⟩ := by
  induction fuel generalizing J k with
  | zero => exact absurd hfuel (Nat.not_lt_zero J)
  | succ fuel ih =>
      unfold shortestFrom
      cases hfirst : i.neighbour? k with
      | some c => exact ⟨0, Nat.zero_le J, c, by simpa using hfirst, by simp⟩
      | none =>
          obtain ⟨J, rfl⟩ : ∃ n, J = n + 1 := by
            refine Nat.exists_eq_succ_of_ne_zero ?_
            rintro rfl
            rw [Int.natCast_zero, Int.sub_zero, hfirst] at h
            cases h
          have hexponent : ∀ j : Nat, k - ((j + 1 : Nat) : Int) = k - 1 - j := by
            intro j
            push_cast
            ring
          rw [hexponent] at h
          obtain ⟨j, hj, c, hc, heq⟩ := ih (by omega) h
          exact ⟨j + 1, by omega, c, by rw [hexponent]; exact hc, by rw [hexponent]; exact heq⟩

theorem value_dropZeros (fuel : Nat) (s : Scientific) :
    (dropZeros fuel s).value = s.value ∧ (dropZeros fuel s).digits ≤ s.digits := by
  induction fuel generalizing s with
  | zero => exact ⟨rfl, Nat.le_refl _⟩
  | succ fuel ih =>
      unfold dropZeros
      split
      · rename_i hzero
        obtain ⟨hvalue, hle⟩ := ih ⟨s.digits / 10, s.exponent + 1⟩
        refine ⟨hvalue.trans ?_, Nat.le_trans hle (Nat.div_le_self _ _)⟩
        have hdigits : (s.digits : ℚ) = (s.digits / 10 : Nat) * 10 := by
          exact_mod_cast (Nat.div_mul_cancel (Nat.dvd_of_mod_eq_zero hzero)).symm
        unfold Scientific.value
        rw [hdigits, zpow_add_one₀ (by norm_num)]
        ring
      · exact ⟨rfl, Nat.le_refl _⟩

/-- A decimal of more digits than the format has is closer to the number than the ends of the gaps are,
for its grid is finer. -/
theorem margin {P c step v gap : ℚ} (hstep : 0 < step) (hP : 4 ≤ P) (hc : P + 2 ≤ c)
    (hclose : |c * step - v| ≤ step / 2) (hgap : v / (2 * P) ≤ gap) :
    c * step / (2 * P ^ 2) ≤ gap - |c * step - v| := by
  have hv : (c - 1 / 2) * step ≤ v := by
    have h := (abs_le.mp hclose).2
    linarith
  have hscaled : c ≤ P * (c - 1 / 2 - P) := by
    have h := mul_le_mul_of_nonneg_left hc (show (0 : ℚ) ≤ P - 1 by linarith)
    linarith
  calc c * step / (2 * P ^ 2) ≤ P * (c - 1 / 2 - P) * step / (2 * P ^ 2) := by gcongr
    _ = (c - 1 / 2) * step / (2 * P) - step / 2 := by field_simp
    _ ≤ v / (2 * P) - step / 2 := by gcongr
    _ ≤ gap - |c * step - v| := by linarith

section
variable {F : Format} {d : Scaled}

theorem neighbour?_around (hd : F.Holds d) (hpos : 0 < d.mantissa) (hprecision : 0 < F.precision) {k : Int}
    (hk : (10 : ℚ) ^ k * 2 ^ F.precision < d.value) :
    ∃ c, (Interval.around F d).neighbour? k = some c ∧ |(c : ℚ) * 10 ^ k - d.value| ≤ 10 ^ k / 2 := by
  obtain ⟨hgap_low, hgap_high⟩ := gaps hd hprecision
  have hhalf : (10 : ℚ) ^ k / 2 < d.value / 2 ^ (F.precision + 1) := by
    rw [pow_succ, lt_div_iff₀ (by positivity)]
    linarith
  have hclose := Interval.neighbour?_close (k := k) (den_around F d)
  rw [value_around, low_around hpos, high_around] at hclose
  exact hclose (by linarith) (by linarith)

theorem sub_one_le_of_neighbour? {k : Int} {c : Nat} (h : (Interval.around F d).neighbour? k = some c) :
    ((c : ℚ) - 1) * 10 ^ k ≤ d.value := by
  have hle := (Interval.steps_le (den_around F d) k).1
  have hsteps := (Interval.neighbour?_cases h).1
  rw [value_around] at hle
  generalize (Interval.around F d).value * _ / _ = steps at *
  have hpred : (c : ℚ) ≤ steps + 1 := by
    have hle : c ≤ steps + 1 := by omega
    exact_mod_cast hle
  refine le_trans ?_ hle
  gcongr
  linarith

/-- The search ends on a step with few digits, which lies in the interval. -/
theorem exists_shortest (hd : F.Holds d) (hpos : 0 < d.mantissa) (hprecision : 0 < F.precision) {J : Nat}
    (hJ : 2 ^ F.precision < 10 ^ J) (hJ' : J < 17) :
    ∃ (c : Nat) (k : Int), (shortest F d).value = c * 10 ^ k ∧ (shortest F d).digits ≤ c ∧ c ≤ 10 ^ (J + 1) ∧
      (Interval.around F d).neighbour? k = some c := by
  have hden := den_around F d
  have hvalue : 0 < (Interval.around F d).value :=
    Nat.mul_pos (by omega) (divPow_pos (2 - d.exponent)).1
  unfold shortest
  dsimp only
  have hlead := (Interval.leadingExponent_spec hden hvalue).1
  have hbounds := fun j => (Interval.steps_bounds hden hvalue j).2
  generalize leadingExponent (Interval.around F d).value (Interval.around F d).den = k at *
  have hfine : (10 : ℚ) ^ (k - J) * 2 ^ F.precision < d.value := by
    rw [← Nat.one_mul (Interval.factors _ k).1, (Interval.factors_le hden _ 1).2, value_around,
      Nat.cast_one, one_mul] at hlead
    have hJq : (2 : ℚ) ^ F.precision < 10 ^ J := by exact_mod_cast hJ
    refine lt_of_lt_of_le ?_ hlead
    rw [zpow_sub₀ (by norm_num), zpow_natCast, div_mul_eq_mul_div, div_lt_iff₀ (by positivity)]
    gcongr
  obtain ⟨c₀, hc₀, -⟩ := neighbour?_around hd hpos hprecision hfine
  obtain ⟨j, hj, c, hc, hsearch⟩ := shortestFrom_eq hJ' (by rw [hc₀]; rfl)
  obtain ⟨hdropped, hdigits⟩ := value_dropZeros 20 ⟨c, k - j⟩
  rw [hsearch]
  refine ⟨c, k - j, hdropped, hdigits, ?_, hc⟩
  have hsteps := (Interval.neighbour?_cases hc).1
  have hlt := hbounds j
  generalize (Interval.around F d).value * _ / _ = steps at *
  have hpow : 10 ^ (j + 1) ≤ 10 ^ (J + 1) := Nat.pow_le_pow_right (by decide) (by omega)
  omega

/-- The shortest decimal of a number lies within the middles of the gaps around it; and if it has more
digits than the numbers of the format, it keeps away from both. Its digits are few as soon as the grid
`10 ^ J` times finer than the first digit is finer than the format. -/
theorem shortest_within (hd : F.Holds d) (hpos : 0 < d.mantissa) (hprecision : 2 ≤ F.precision) {J : Nat}
    (hJ : 2 ^ F.precision < 10 ^ J) (hJ' : J < 17) :
    (shortest F d).digits ≤ 10 ^ (J + 1) ∧
      F.lower d ≤ (shortest F d).value ∧ (shortest F d).value ≤ Format.upper d ∧
      ((shortest F d).digits ≤ 2 ^ F.precision + 1 ∨
        (shortest F d).value / (2 * (2 ^ F.precision) ^ 2) ≤ (shortest F d).value - F.lower d ∧
          (shortest F d).value / (2 * (2 ^ F.precision) ^ 2) ≤ Format.upper d - (shortest F d).value) := by
  obtain ⟨c, k, hvalue, hdigits, hbound, hc⟩ := exists_shortest hd hpos (by omega) hJ hJ'
  obtain ⟨hlow, hhigh⟩ := Interval.within_of_contains (den_around F d) (Interval.neighbour?_cases hc).2
  rw [low_around hpos] at hlow
  rw [high_around] at hhigh
  rw [hvalue]
  refine ⟨by omega, hlow, hhigh, ?_⟩
  rcases Nat.lt_or_ge c (2 ^ F.precision + 2) with hfew | hmany
  · exact .inl (by omega)
  right
  have hP : (4 : ℚ) ≤ 2 ^ F.precision := by
    calc (4 : ℚ) = 2 ^ 2 := by norm_num
      _ ≤ 2 ^ F.precision := pow_le_pow_right₀ one_le_two hprecision
  have hcq : (2 : ℚ) ^ F.precision + 2 ≤ c := by exact_mod_cast hmany
  have hstep : (0 : ℚ) < 10 ^ k := by positivity
  have hfine : (10 : ℚ) ^ k * 2 ^ F.precision < d.value := by
    have hbelow := sub_one_le_of_neighbour? hc
    have hlt : (10 : ℚ) ^ k * 2 ^ F.precision < (c - 1) * 10 ^ k := by
      rw [mul_comm]
      gcongr
      linarith
    linarith
  obtain ⟨c', hc', hclose⟩ := neighbour?_around hd hpos (by omega) hfine
  obtain rfl : c = c' := Option.some.inj (hc.symm.trans hc')
  obtain ⟨hgap_low, hgap_high⟩ := gaps hd (by omega)
  rw [pow_succ, mul_comm (2 ^ F.precision)] at hgap_low hgap_high
  have hmargin_low := margin hstep hP hcq hclose hgap_low
  have hmargin_high := margin hstep hP hcq hclose hgap_high
  have habs := abs_le.mp (le_refl |(c : ℚ) * 10 ^ k - d.value|)
  constructor <;> linarith

end
end TodoPromo.Decimal
