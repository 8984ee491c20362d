import Mathlib.Algebra.Order.Ring.Abs
import Mathlib.Data.Int.Order.Basic
import Mathlib.Tactic.Linarith
import Mathlib.Tactic.LinearCombination
import Mathlib.Tactic.Ring

/-! # Decimals and the middles of gaps

A decimal of few digits keeps away from the middle of a gap between two binary numbers, further than
two roundings to 64 bits reach (`apart_midpoint`). For a power of two and a power of ten this says that no
small multiple of the one is too close to a multiple of the other. The multiples are looked at as pairs of
factors: two of them, one above and one below, span all pairs, and a pair that is a mixture of both is
never closer than the two gaps together (`Basis.cases`). So it is enough to look at the two, which
continued fractions find; that they are what they should be is checked, not how they were found. Two
decimals are closer to a middle than that. -/

namespace TodoPromo.Decimal

/-- A number that is off `x` by two roundings to 64 bits does not reach `y`. -/
def Apart (x y : Int) : Prop := 21 * x < 10 * 2 ^ 53 * |x - y|

/-! ### Multiples of two numbers -/

/-- Two factors, and how far the product with the first is from the product with the second. -/
structure Pair where
  c : Nat
  m : Nat
  gap : Nat
  deriving DecidableEq

/-- A pair above and a pair below that span all pairs, where a mixture of both is out of reach. -/
structure Basis (A B bound : Nat) (u w : Pair) : Prop where
  above : u.c * A = u.m * B + u.gap
  below : w.c * A + w.gap = w.m * B
  spans : u.c * w.m = u.m * w.c + 1
  reach : bound < u.c + w.c

theorem Basis.coordinates {A B bound : Nat} {u w : Pair} (h : Basis A B bound u w) (c m : Nat) :
    ∃ a b : Int, (c : Int) = a * u.c + b * w.c ∧ (m : Int) = a * u.m + b * w.m ∧
      (c * A - m * B : Int) = a * u.gap - b * w.gap := by
  have habove : (u.c * A : Int) = u.m * B + u.gap := by exact_mod_cast h.above
  have hbelow : (w.c * A : Int) + w.gap = w.m * B := by exact_mod_cast h.below
  have hspans : (u.c * w.m : Int) = u.m * w.c + 1 := by exact_mod_cast h.spans
  have hc : (c : Int) = (c * w.m - m * w.c) * u.c + (m * u.c - c * u.m) * w.c := by
    linear_combination (-(c : Int)) * hspans
  have hm : (m : Int) = (c * w.m - m * w.c) * u.m + (m * u.c - c * u.m) * w.m := by
    linear_combination (-(m : Int)) * hspans
  refine ⟨_, _, hc, hm, ?_⟩
  linear_combination (A : Int) * hc - B * hm + (c * w.m - m * w.c : Int) * habove +
    (m * u.c - c * u.m : Int) * hbelow

/-- Within reach a pair is a multiple of one of the two, or no closer than the gaps of both together. -/
theorem Basis.cases {A B bound : Nat} {u w : Pair} (h : Basis A B bound u w) {c m : Nat} (hpos : 0 < c)
    (hc : c ≤ bound) :
    (∃ a : Nat, 0 < a ∧ c = a * u.c ∧ m = a * u.m) ∨ (∃ b : Nat, 0 < b ∧ c = b * w.c ∧ m = b * w.m) ∨
      (u.gap + w.gap : Int) ≤ |(c * A - m * B : Int)| := by
  obtain ⟨a, b, hc', hm', hgap⟩ := h.coordinates c m
  have hreach := h.reach
  have huc : (0 : Int) ≤ u.c := Int.natCast_nonneg u.c
  have hwc : (0 : Int) ≤ w.c := Int.natCast_nonneg w.c
  have hug : (0 : Int) ≤ u.gap := Int.natCast_nonneg u.gap
  have hwg : (0 : Int) ≤ w.gap := Int.natCast_nonneg w.gap
  rcases lt_or_ge 0 a with hapos | haneg
  · rcases lt_or_ge 0 b with hbpos | hbneg
    · -- a sum of both is out of reach
      have hau := mul_le_mul_of_nonneg_right (Int.add_one_le_of_lt hapos) huc
      have hbw := mul_le_mul_of_nonneg_right (Int.add_one_le_of_lt hbpos) hwc
      omega
    rcases Int.lt_or_eq_of_le hbneg with hbneg | rfl
    · refine .inr (.inr (le_trans ?_ (le_abs_self _)))
      have hau := mul_le_mul_of_nonneg_right (Int.add_one_le_of_lt hapos) hug
      have hbw := mul_le_mul_of_nonneg_right (Int.le_sub_one_of_lt hbneg) hwg
      omega
    · obtain ⟨n, rfl⟩ := Int.eq_ofNat_of_zero_le hapos.le
      rw [zero_mul, add_zero] at hc' hm'
      exact .inl ⟨n, Int.natCast_pos.mp hapos, by exact_mod_cast hc', by exact_mod_cast hm'⟩
  · rcases lt_or_ge 0 b with hbpos | hbneg
    · rcases Int.lt_or_eq_of_le haneg with haneg | rfl
      · refine .inr (.inr (le_trans ?_ (neg_le_abs _)))
        have hau := mul_le_mul_of_nonneg_right (Int.le_sub_one_of_lt haneg) hug
        have hbw := mul_le_mul_of_nonneg_right (Int.add_one_le_of_lt hbpos) hwg
        omega
      · obtain ⟨n, rfl⟩ := Int.eq_ofNat_of_zero_le hbpos.le
        rw [zero_mul, zero_add] at hc' hm'
        exact .inr (.inl ⟨n, Int.natCast_pos.mp hbpos, by exact_mod_cast hc', by exact_mod_cast hm'⟩)
    · -- and there is no pair on the other side
      have hau := mul_nonpos_of_nonpos_of_nonneg haneg huc
      have hbw := mul_nonpos_of_nonpos_of_nonneg hbneg hwc
      omega

/-! ### The search for the two pairs -/

/-- Goes on from a pair above and a pair below to closer ones, as far as they are within reach. -/
def walk (bound : Nat) : Nat → Pair → Pair → Pair × Pair
  | 0, u, w => (u, w)
  | fuel + 1, u, w =>
    if bound < u.c + w.c then (u, w)
    else if w.gap ≤ u.gap then
      let most := u.gap / w.gap
      let j := if w.c = 0 then most else min most ((bound - u.c) / w.c)
      walk bound fuel ⟨u.c + j * w.c, u.m + j * w.m, u.gap - j * w.gap⟩ w
    else
      let most := (bound - w.c) / u.c
      let j := if u.gap = 0 then most else min most ((w.gap - 1) / u.gap)
      walk bound fuel u ⟨w.c + j * u.c, w.m + j * u.m, w.gap - j * u.gap⟩

/-! ### Powers of two and ten -/

/-- The factors that come into question: those of a middle of a gap have 25 binary digits, and those of a
decimal that needs no more digits than a number of 32 bits are not much larger than `2 ^ 24`. -/
def bound (A B : Nat) : Nat := min (2 ^ 24 + 1) (2 ^ 25 * B / A)

/-- The decimals that are too close to a middle: `c / 10 ^ n` and `m / 2 ^ t`. -/
def closeCalls : List (Nat × Nat × Nat × Nat) :=
  [(108, 32, 7038531, 22841339), (107, 32, 14077062, 22841339)]

/-- No odd multiple of the pair is too close, but for the pair itself if it is listed. -/
def Harmless (t n : Nat) (p : Pair) : Prop :=
  p.m % 2 = 0 ∨ bound (2 ^ t) (10 ^ n) < p.c ∨ 21 * (p.c * 2 ^ t) < 10 * 2 ^ 53 * p.gap ∨
    (t, n, p.c, p.m) ∈ closeCalls ∧ bound (2 ^ t) (10 ^ n) < 2 * p.c

instance (t n : Nat) (p : Pair) : Decidable (Harmless t n p) := inferInstanceAs (Decidable (_ ∨ _))

/-- The two pairs are a basis, and nothing that is too close can be made of them. -/
def Certified (t n : Nat) (p : Pair × Pair) : Prop :=
  p.1.c * 2 ^ t = p.1.m * 10 ^ n + p.1.gap ∧ p.2.c * 2 ^ t + p.2.gap = p.2.m * 10 ^ n ∧
    p.1.c * p.2.m = p.1.m * p.2.c + 1 ∧ bound (2 ^ t) (10 ^ n) < p.1.c + p.2.c ∧
    21 * (bound (2 ^ t) (10 ^ n) * 2 ^ t) < 10 * 2 ^ 53 * (p.1.gap + p.2.gap) ∧
    Harmless t n p.1 ∧ Harmless t n p.2

instance (t n : Nat) (p : Pair × Pair) : Decidable (Certified t n p) := inferInstanceAs (Decidable (_ ∧ _))

/-- There are no factors for the powers, as even the greatest are too small, or there is a certificate. -/
def Settled (t n : Nat) : Prop :=
  bound (2 ^ t) (10 ^ n) = 0 ∨ t < 150 ∧ 2 * 2 ^ t < 10 ^ n ∨
    Certified t n (walk (bound (2 ^ t) (10 ^ n)) 40 ⟨1, 0, 2 ^ t⟩ ⟨0, 1, 10 ^ n⟩)

instance (t n : Nat) : Decidable (Settled t n) := inferInstanceAs (Decidable (_ ∨ _))

set_option maxRecDepth 4000 in
theorem settled : ∀ i < 126, ∀ n < 54, Settled (25 + i) n := by decide +kernel

/-! ### Decimals and middles -/

theorem apart_of_le {x y g : Int} (h : 21 * x < 10 * 2 ^ 53 * g) (hg : g ≤ |x - y|) :
    Apart x y := by
  unfold Apart
  omega

theorem Harmless.apart {t n : Nat} {p : Pair} (h : Harmless t n p)
    (hgap : (p.gap : Int) = |(p.c * 2 ^ t - p.m * 10 ^ n : Int)|) {a : Nat} (ha : 0 < a)
    (hodd : a * p.m % 2 = 1) (hc : a * p.c ≤ bound (2 ^ t) (10 ^ n)) :
    (t, n, a * p.c, a * p.m) ∈ closeCalls ∨ Apart ((a * p.c : Nat) * 2 ^ t) ((a * p.m : Nat) * 10 ^ n) := by
  rcases h with heven | hfar | hapart | ⟨hlisted, hfar⟩
  · rw [Nat.mul_mod, heven, Nat.mul_zero] at hodd
    cases hodd
  · have hle := Nat.le_mul_of_pos_left p.c ha
    omega
  · refine .inr (apart_of_le (g := a * p.gap) ?_ (le_of_eq ?_))
    · have hscaled := Nat.mul_lt_mul_of_pos_left hapart ha
      push_cast
      zify at hscaled
      linarith
    · have hfactor : (((a * p.c : Nat) : Int) * 2 ^ t - (a * p.m : Nat) * 10 ^ n) =
          a * (p.c * 2 ^ t - p.m * 10 ^ n) := by
        push_cast
        ring
      rw [hfactor, abs_mul, ← hgap, Nat.abs_cast]
  · obtain rfl : a = 1 := by
      rcases Nat.lt_or_ge 1 a with hmore | hone
      · have hle := Nat.mul_le_mul_right p.c hmore
        omega
      · omega
    rw [Nat.one_mul, Nat.one_mul]
    exact .inl hlisted

/-- Where the power of ten is much larger, a middle of full length is far above. -/
theorem apart_above {A B c m : Nat} (hA : 0 < A) (hAB : 2 * A < B) (hc : c ≤ 2 ^ 24 + 1)
    (hm : 2 ^ 24 ≤ m) : Apart (c * A) (m * B) := by
  have hx : (c * A : Int) ≤ (2 ^ 24 + 1) * A := by exact_mod_cast Nat.mul_le_mul_right A hc
  have hy : (2 ^ 24 * B : Int) ≤ m * B := by exact_mod_cast Nat.mul_le_mul_right B hm
  refine apart_of_le (g := (2 ^ 24 - 1) * A) ?_ (le_trans ?_ (neg_le_abs _))
  · omega
  · omega

theorem apart_beyond {A B c m : Nat} (hm : m < 2 ^ 25) (hc : 2 ^ 25 * B < c * A) :
    Apart (c * A) (m * B) := by
  have hm' : (m : Int) ≤ 2 ^ 25 - 1 := by omega
  have hy := mul_le_mul_of_nonneg_right hm' (Int.natCast_nonneg B)
  have hx : (2 ^ 25 * B : Int) < c * A := by exact_mod_cast hc
  have habs := le_abs_self (c * A - m * B : Int)
  unfold Apart
  generalize |(c * A - m * B : Int)| = gap at *
  omega

/-- A decimal of few digits and the middle of a gap below one are apart, but for two close calls. The
middle is `m / 2 ^ t`, with an integer of full length unless the numbers around it are the smallest. -/
theorem apart_midpoint {t n c m : Nat} (ht : 25 ≤ t) (ht' : t ≤ 150) (hn : n < 54) (hpos : 0 < c)
    (hc : c ≤ 2 ^ 24 + 1) (hodd : m % 2 = 1) (hm : m < 2 ^ 25) (hfull : t = 150 ∨ 2 ^ 24 ≤ m) :
    (t, n, c, m) ∈ closeCalls ∨ Apart (c * 2 ^ t) (m * 10 ^ n) := by
  obtain ⟨i, rfl⟩ := Nat.exists_eq_add_of_le ht
  have hA : 0 < 2 ^ (25 + i) := Nat.pow_pos (by decide)
  by_cases hreach : c ≤ bound (2 ^ (25 + i)) (10 ^ n)
  · rcases settled i (by omega) n hn with hnone | ⟨hsmall, hAB⟩ | ⟨habove, hbelow, hspans, hbound, hmixed, hu, hw⟩
    · omega
    · have h := apart_above hA hAB hc (hfull.resolve_left (by omega))
      push_cast at h
      exact .inr h
    · generalize walk _ _ _ _ = p at *
      obtain ⟨u, w⟩ := p
      dsimp only at *
      have hbasis : Basis (2 ^ (25 + i)) (10 ^ n) (bound (2 ^ (25 + i)) (10 ^ n)) u w :=
        ⟨habove, hbelow, hspans, hbound⟩
      zify at habove hbelow
      rcases hbasis.cases (m := m) hpos hreach with ⟨a, ha, rfl, rfl⟩ | ⟨b, hb, rfl, rfl⟩ | hgap
      · refine hu.apart ?_ ha hodd hreach
        rw [habove, add_sub_cancel_left, Nat.abs_cast]
      · refine hw.apart ?_ hb hodd hreach
        rw [← hbelow, sub_add_cancel_left, abs_neg, Nat.abs_cast]
      · refine .inr (apart_of_le (g := u.gap + w.gap) ?_ ?_)
        · have hle := Nat.mul_le_mul_right (2 ^ (25 + i)) hreach
          zify at hle hmixed
          linarith
        · exact_mod_cast hgap
  · have hbeyond : 2 ^ 25 * 10 ^ n < c * 2 ^ (25 + i) := by
      unfold bound at hreach
      rw [← Nat.div_lt_iff_lt_mul hA]
      omega
    have h := apart_beyond hm hbeyond
    push_cast at h
    exact .inr h

end TodoPromo.Decimal
