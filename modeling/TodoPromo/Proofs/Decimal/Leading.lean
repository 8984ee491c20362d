import Mathlib.Tactic.Linarith
import Mathlib.Tactic.Ring
import TodoPromo.Decimal.Shortest

/-! # The first digit of a shortest decimal

Where the shortest decimal of a number begins. The search starts on the grid of the first digit of the
number (`leadingExponent_spec`) and on each grid looks at the number's two neighbours alone, so the
decimal it ends with is not zero, and its first digit stands at most one place further up
(`shortest_leads`). -/

namespace TodoPromo.Decimal

open Binary

/-! ### Counting digits -/

theorem digitCount_eq {n : Nat} (h : 0 < n) : digitCount n = (digitsOf n).length := by
  rw [digitCount, if_neg (by omega)]
  rfl

theorem digitCount_pos {n : Nat} (h : 0 < n) : 0 < digitCount n := by
  rw [digitCount_eq h]
  exact Nat.length_toDigits_pos

theorem lt_pow_digitCount {n : Nat} (h : 0 < n) : n < 10 ^ digitCount n := by
  rw [digitCount_eq h]
  exact (Nat.length_toDigits_le_iff (by decide) Nat.length_toDigits_pos).mp (Nat.le_refl _)

theorem digitCount_le {n k : Nat} (h : 0 < n) (hk : 0 < k) (hn : n < 10 ^ k) : digitCount n ≤ k := by
  rw [digitCount_eq h]
  exact (Nat.length_toDigits_le_iff (by decide) hk).mpr hn

theorem pow_digitCount_le {n : Nat} (h : 0 < n) : 10 ^ (digitCount n - 1) ≤ n := by
  rcases Nat.lt_or_ge n (10 ^ (digitCount n - 1)) with hlt | hle
  · have hpos := digitCount_pos h
    cases hcount : digitCount n - 1 with
    | zero =>
        rw [hcount, Nat.pow_zero] at hlt
        omega
    | succ k =>
        rw [hcount] at hlt
        have hle := digitCount_le h (Nat.succ_pos k) hlt
        omega
  · exact hle

/-! ### Grids -/

namespace Interval

variable {i : Interval}

theorem factors_of_nonneg (k : Nat) : i.factors k = (10 ^ k * i.den, 1) := by
  rw [factors, if_pos (Int.natCast_nonneg k), Int.toNat_natCast]
  rfl

theorem factors_of_neg {k : Nat} (h : 0 < k) : i.factors (-k) = (i.den, 10 ^ k) := by
  rw [factors, if_neg (by omega), Int.neg_neg, Int.toNat_natCast]
  rfl

theorem factors_sub (i : Interval) (k : Int) (j : Nat) :
    (i.factors (k - j)).1 * 10 ^ j * (i.factors k).2 =
      (i.factors k).1 * (i.factors (k - j)).2 := by
  rcases Int.lt_or_le k 0 with hneg | hpos
  · obtain ⟨n, rfl⟩ : ∃ n : Nat, k = -(n : Int) := ⟨k.natAbs, by omega⟩
    have hfiner : -(n : Int) - j = -((n + j : Nat) : Int) := by omega
    rw [hfiner, factors_of_neg (by omega), factors_of_neg (by omega)]
    ring
  · obtain ⟨n, rfl⟩ := Int.eq_ofNat_of_zero_le hpos
    rcases Nat.lt_or_ge n j with hlt | hge
    · obtain ⟨m, rfl⟩ := Nat.exists_eq_add_of_lt hlt
      have hfiner : (n : Int) - (n + m + 1 : Nat) = -((m + 1 : Nat) : Int) := by omega
      rw [hfiner, factors_of_nonneg, factors_of_neg (by omega)]
      ring
    · obtain ⟨m, rfl⟩ := Nat.exists_eq_add_of_le hge
      have hfiner : ((j + m : Nat) : Int) - j = (m : Int) := by omega
      rw [hfiner, factors_of_nonneg, factors_of_nonneg]
      ring

theorem factors_pos (h : 0 < i.den) (k : Int) : 0 < (i.factors k).1 ∧ 0 < (i.factors k).2 := by
  rcases Int.lt_or_le k 0 with hneg | hpos
  · obtain ⟨n, rfl⟩ : ∃ n : Nat, k = -(n : Int) := ⟨k.natAbs, by omega⟩
    rw [factors_of_neg (by omega)]
    exact ⟨h, Nat.pow_pos (by decide)⟩
  · obtain ⟨n, rfl⟩ := Int.eq_ofNat_of_zero_le hpos
    rw [factors_of_nonneg]
    exact ⟨Nat.mul_pos (Nat.pow_pos (by decide)) h, Nat.one_pos⟩

/-- On the grid of the first digit the value is one to nine steps and a part. -/
theorem leadingExponent_spec (hden : 0 < i.den) (hvalue : 0 < i.value) :
    (i.factors (leadingExponent i.value i.den)).1 ≤
        i.value * (i.factors (leadingExponent i.value i.den)).2 ∧
      i.value * (i.factors (leadingExponent i.value i.den)).2 <
        10 * (i.factors (leadingExponent i.value i.den)).1 := by
  unfold leadingExponent
  by_cases hle : i.den ≤ i.value
  · rw [if_pos hle]
    have hquotient : 0 < i.value / i.den := Nat.div_pos hle hden
    obtain ⟨n, hn⟩ : ∃ n, digitCount (i.value / i.den) = n + 1 :=
      Nat.exists_eq_succ_of_ne_zero (Nat.ne_of_gt (digitCount_pos hquotient))
    have hlow := pow_digitCount_le hquotient
    have hhigh := lt_pow_digitCount hquotient
    have hexponent : ((n + 1 : Nat) : Int) - 1 = n := by omega
    rw [hn] at hlow hhigh ⊢
    rw [hexponent, factors_of_nonneg]
    rw [Nat.le_div_iff_mul_le hden, Nat.add_sub_cancel] at hlow
    rw [Nat.div_lt_iff_lt_mul hden, Nat.pow_succ] at hhigh
    exact ⟨by linarith, by linarith⟩
  · rw [if_neg hle]
    have hceil : 0 < (i.den + i.value - 1) / i.value - 1 := by
      have htwo : 2 ≤ (i.den + i.value - 1) / i.value := by
        rw [Nat.le_div_iff_mul_le hvalue]
        omega
      omega
    obtain ⟨n, hn⟩ : ∃ n, digitCount ((i.den + i.value - 1) / i.value - 1) = n + 1 :=
      Nat.exists_eq_succ_of_ne_zero (Nat.ne_of_gt (digitCount_pos hceil))
    have hlow := pow_digitCount_le hceil
    have hhigh := lt_pow_digitCount hceil
    rw [hn] at hlow hhigh ⊢
    rw [factors_of_neg (k := n + 1) (Nat.succ_pos n)]
    have hlow' : 10 ^ n + 1 ≤ (i.den + i.value - 1) / i.value := by
      rw [Nat.add_sub_cancel] at hlow
      omega
    have hhigh' : (i.den + i.value - 1) / i.value < 10 ^ (n + 1) + 1 := by omega
    rw [Nat.le_div_iff_mul_le hvalue, Nat.add_mul] at hlow'
    rw [Nat.div_lt_iff_lt_mul hvalue, Nat.add_mul] at hhigh'
    dsimp only
    rw [Nat.mul_comm i.value]
    refine ⟨by omega, ?_⟩
    rw [Nat.pow_succ]
    generalize hv : 10 ^ n * i.value = v at hlow'
    have htimes : 10 ^ n * 10 * i.value = 10 * v := by rw [← hv]; ring
    omega

theorem steps_bounds (hden : 0 < i.den) (hvalue : 0 < i.value) (j : Nat) :
    let f := i.factors (leadingExponent i.value i.den - j)
    0 < i.value * f.2 / f.1 ∧ i.value * f.2 / f.1 < 10 ^ (j + 1) := by
  obtain ⟨hlow, hhigh⟩ := leadingExponent_spec hden hvalue
  have hratio := i.factors_sub (leadingExponent i.value i.den) j
  have hpos := factors_pos hden (leadingExponent i.value i.den)
  have hpos' := factors_pos hden (leadingExponent i.value i.den - j)
  generalize i.factors (leadingExponent i.value i.den) = f at *
  generalize i.factors (leadingExponent i.value i.den - j) = f' at *
  obtain ⟨a, b⟩ := f
  obtain ⟨a', b'⟩ := f'
  dsimp only at *
  have hpow : 0 < 10 ^ j := Nat.pow_pos (by decide)
  constructor
  · refine Nat.div_pos ?_ hpos'.1
    have h1 : a' * b ≤ i.value * b' * b := by
      calc a' * b ≤ a' * 10 ^ j * b := Nat.mul_le_mul_right b (Nat.le_mul_of_pos_right a' hpow)
        _ = a * b' := hratio
        _ ≤ i.value * b * b' := Nat.mul_le_mul_right b' hlow
        _ = i.value * b' * b := by ring
    exact Nat.le_of_mul_le_mul_right h1 hpos.2
  · rw [Nat.div_lt_iff_lt_mul hpos'.1]
    have h1 : i.value * b' * b < 10 ^ (j + 1) * a' * b := by
      calc i.value * b' * b = i.value * b * b' := by ring
        _ < 10 * a * b' := Nat.mul_lt_mul_of_pos_right hhigh hpos'.2
        _ = 10 * (a' * 10 ^ j * b) := by rw [hratio]; ring
        _ = 10 ^ (j + 1) * a' * b := by ring
    exact Nat.lt_of_mul_lt_mul_right h1

theorem leadingExponent_lt (hden : 0 < i.den) (hvalue : 0 < i.value) {n : Nat}
    (h : i.value < 10 ^ n) : leadingExponent i.value i.den < n := by
  rcases Int.lt_or_le (leadingExponent i.value i.den) n with hlt | hle
  · exact hlt
  · obtain ⟨m, hm⟩ := Int.eq_ofNat_of_zero_le (Int.le_trans (Int.natCast_nonneg n) hle)
    have hlow := (leadingExponent_spec hden hvalue).1
    rw [hm, factors_of_nonneg, Nat.mul_one] at hlow
    have hpow : 10 ^ n ≤ 10 ^ m := Nat.pow_le_pow_right (by decide) (by omega)
    have hle : 10 ^ m ≤ 10 ^ m * i.den := Nat.le_mul_of_pos_right _ hden
    omega

/-- A neighbour of the value is one of the two steps next to it, and lies in the interval. -/
theorem neighbour?_cases {k : Int} {c : Nat} (h : i.neighbour? k = some c) :
    (c = i.value * (i.factors k).2 / (i.factors k).1 ∨
        c = i.value * (i.factors k).2 / (i.factors k).1 + 1) ∧ i.contains c k = true := by
  unfold neighbour? at h
  dsimp only at h
  generalize i.value * (i.factors k).2 / (i.factors k).1 = steps at *
  split at h
  · rename_i hlow hhigh
    split at h
    · rw [← Option.some.inj h]
      exact ⟨.inl rfl, hlow⟩
    · rw [← Option.some.inj h]
      exact ⟨.inr rfl, hhigh⟩
  · rename_i hlow _
    rw [← Option.some.inj h]
    exact ⟨.inl rfl, hlow⟩
  · rename_i _ hhigh
    rw [← Option.some.inj h]
    exact ⟨.inr rfl, hhigh⟩
  · cases h

theorem pos_of_contains (hden : 0 < i.den) (hlow : 0 < i.low) {c : Nat} {k : Int}
    (h : i.contains c k = true) : 0 < c := by
  have hleft : 0 < i.low * (i.factors k).2 := Nat.mul_pos hlow (factors_pos hden k).2
  have hright : 0 < c * (i.factors k).1 := by
    unfold contains at h
    dsimp only at h
    split at h
    · rw [Bool.and_eq_true, decide_eq_true_eq] at h
      omega
    · rw [Bool.and_eq_true, decide_eq_true_eq] at h
      omega
  exact Nat.pos_of_mul_pos_right hright

end Interval

/-! ### The search -/

/-- The exponent of the first digit of a decimal. -/
def Scientific.lead (s : Scientific) : Int := s.exponent + ((digitsOf s.digits).length - 1 : Nat)

/-- Whichever grid the search ends on, it ends on a step next to the value other than zero. -/
theorem shortestFrom_leads {i : Interval} (hden : 0 < i.den) (hlow : 0 < i.low)
    (hvalue : 0 < i.value) (fuel j : Nat) :
    0 < (shortestFrom i fuel (leadingExponent i.value i.den - j)).digits ∧
      (shortestFrom i fuel (leadingExponent i.value i.den - j)).lead ≤
        leadingExponent i.value i.den + 1 := by
  have hleads : ∀ (j c : Nat), 0 < c → c ≤ 10 ^ (j + 1) →
      (⟨c, leadingExponent i.value i.den - j⟩ : Scientific).lead ≤
        leadingExponent i.value i.den + 1 := by
    intro j c hpos hc
    have hcount := digitCount_le (k := j + 2) hpos (by omega) (by rw [Nat.pow_succ]; omega)
    rw [digitCount_eq hpos] at hcount
    unfold Scientific.lead
    dsimp only
    omega
  induction fuel generalizing j with
  | zero =>
      obtain ⟨hpos, hlt⟩ := Interval.steps_bounds hden hvalue j
      exact ⟨hpos, hleads j _ hpos (Nat.le_of_lt hlt)⟩
  | succ fuel ih =>
      unfold shortestFrom
      cases hneighbour : i.neighbour? (leadingExponent i.value i.den - j) with
      | some c =>
          obtain ⟨hc, hcontains⟩ := Interval.neighbour?_cases hneighbour
          have hpos := Interval.pos_of_contains hden hlow hcontains
          have hlt := (Interval.steps_bounds hden hvalue j).2
          exact ⟨hpos, hleads j c hpos (by omega)⟩
      | none =>
          have hfiner : leadingExponent i.value i.den - j - 1 =
              leadingExponent i.value i.den - ((j + 1 : Nat) : Int) := by omega
          dsimp only
          rw [hfiner]
          exact ih (j + 1)

theorem dropZeros_leads (fuel : Nat) {s : Scientific} (h : 0 < s.digits) :
    0 < (dropZeros fuel s).digits ∧ (dropZeros fuel s).lead = s.lead := by
  induction fuel generalizing s with
  | zero => exact ⟨h, rfl⟩
  | succ fuel ih =>
      unfold dropZeros
      split
      · rename_i hzero
        have hpos : 0 < s.digits / 10 := by omega
        have hlength : (digitsOf s.digits).length = (digitsOf (s.digits / 10)).length + 1 := by
          unfold digitsOf
          rw [Nat.toDigits_of_base_le (by decide) (by omega), List.length_append]
          rfl
        have hpos' : 0 < (digitsOf (s.digits / 10)).length := Nat.length_toDigits_pos
        have hlead : (⟨s.digits / 10, s.exponent + 1⟩ : Scientific).lead = s.lead := by
          unfold Scientific.lead
          dsimp only
          omega
        obtain ⟨hdigits, hsame⟩ := ih (s := ⟨s.digits / 10, s.exponent + 1⟩) hpos
        exact ⟨hdigits, hsame.trans hlead⟩
      · exact ⟨h, rfl⟩

theorem divPow_pos (q : Int) : 0 < (divPow 1 1 q).1 ∧ 0 < (divPow 1 1 q).2 := by
  have hpow : ∀ n, 0 < Nat.pow 2 n := fun n => Nat.pow_pos (by decide)
  unfold divPow
  split
  · exact ⟨Nat.one_pos, Nat.mul_pos Nat.one_pos (hpow _)⟩
  · exact ⟨Nat.mul_pos Nat.one_pos (hpow _), Nat.one_pos⟩

/-- The shortest decimal of a number other than zero is not zero, and begins at most one place above
the number itself. -/
theorem shortest_leads (F : Format) {d : Scaled} (h : 0 < d.mantissa) {n : Nat}
    (hlt : (Interval.around F d).value < 10 ^ n) :
    0 < (shortest F d).digits ∧ (shortest F d).lead ≤ n := by
  have hunit := divPow_pos (2 - d.exponent)
  have hden : 0 < (Interval.around F d).den := hunit.2
  have hvalue : 0 < (Interval.around F d).value := Nat.mul_pos (by omega) hunit.1
  have hlow : 0 < (Interval.around F d).low := by
    refine Nat.mul_pos ?_ hunit.1
    split <;> omega
  have hfirst := Interval.leadingExponent_lt hden hvalue hlt
  obtain ⟨hpos, hlead⟩ := shortestFrom_leads hden hlow hvalue 17 0
  obtain ⟨hpos', hlead'⟩ := dropZeros_leads 20 hpos
  rw [Int.natCast_zero, Int.sub_zero] at hpos' hlead' hlead
  refine ⟨hpos', ?_⟩
  change (dropZeros 20 (shortestFrom _ 17 _)).lead ≤ n
  omega

end TodoPromo.Decimal
