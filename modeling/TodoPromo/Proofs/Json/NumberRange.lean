import Mathlib.Algebra.Group.Nat.Defs
import TodoPromo.Proofs.Json.Numerals

/-! # Numbers within range

A numeral is refused if a needless zero stands in front of it or if it is out of range. Rounding to 64
bits fails only far beyond the powers of ten that come into question here (`nearest_bounds`), so a
numeral whose exponent and whole part stay below the hundredth power of ten is a number
(`Numeral.value?_isSome`). -/

namespace TodoPromo

namespace Binary

theorem roundDiv_le (num den : Nat) : roundDiv num den ≤ num / den + 1 := by
  unfold roundDiv
  dsimp only
  split <;> omega

theorem divPow_lt (num : Nat) {den : Nat} (hden : 0 < den) {q : Int} {p : Nat}
    (h : (num.log2 : Int) - den.log2 - p ≤ q) :
    (divPow num den q).1 / (divPow num den q).2 < 2 ^ (p + 1) := by
  have hnum : num < 2 ^ (num.log2 + 1) := Nat.lt_log2_self
  have hden' : 2 ^ den.log2 ≤ den := Nat.log2_self_le (Nat.ne_of_gt hden)
  have hpow : ∀ n, Nat.pow 2 n = 2 ^ n := fun _ => rfl
  unfold divPow
  split
  · rw [hpow, Nat.div_lt_iff_lt_mul (Nat.mul_pos hden (Nat.pow_pos (by decide)))]
    calc num < 2 ^ (num.log2 + 1) := hnum
      _ ≤ 2 ^ (p + 1 + (den.log2 + q.toNat)) := Nat.pow_le_pow_right (by decide) (by omega)
      _ = 2 ^ (p + 1) * (2 ^ den.log2 * 2 ^ q.toNat) := by rw [Nat.pow_add, Nat.pow_add 2 den.log2]
      _ ≤ 2 ^ (p + 1) * (den * 2 ^ q.toNat) :=
        Nat.mul_le_mul_left _ (Nat.mul_le_mul_right _ hden')
  · rw [hpow, Nat.div_lt_iff_lt_mul hden]
    calc num * 2 ^ (-q).toNat < 2 ^ (num.log2 + 1) * 2 ^ (-q).toNat :=
        Nat.mul_lt_mul_of_pos_right hnum (Nat.pow_pos (by decide))
      _ = 2 ^ (num.log2 + 1 + (-q).toNat) := (Nat.pow_add 2 _ _).symm
      _ ≤ 2 ^ (p + 1 + den.log2) := Nat.pow_le_pow_right (by decide) (by omega)
      _ = 2 ^ (p + 1) * 2 ^ den.log2 := Nat.pow_add 2 _ _
      _ ≤ 2 ^ (p + 1) * den := Nat.mul_le_mul_left _ hden'

/-- The rounding of a quotient is there unless the quotient is beyond the format, and its integer
and its power of two are bounded. -/
theorem nearest_bounds (F : Format) (num : Nat) {den : Nat} (hden : 0 < den)
    (h : max F.least ((num.log2 : Int) - den.log2 - F.precision) + 2 ≤ F.greatest) :
    ∃ d, F.nearest num den = some d ∧ d.mantissa ≤ 2 ^ (F.precision + 1) ∧
      d.exponent ≤ max F.least ((num.log2 : Int) - den.log2 - F.precision) + 2 := by
  unfold Format.nearest
  split
  · exact ⟨_, rfl, Nat.zero_le _, by dsimp only; omega⟩
  · have hspacing : max F.least ((num.log2 : Int) - den.log2 - F.precision) ≤ F.spacing num den ∧
        F.spacing num den ≤ max F.least ((num.log2 : Int) - den.log2 - F.precision) + 1 := by
      unfold Format.spacing
      dsimp only
      split <;> omega
    have hround := roundDiv_le (divPow num den (F.spacing num den)).1
      (divPow num den (F.spacing num den)).2
    have hlt := divPow_lt num hden (p := F.precision) (q := F.spacing num den) (by omega)
    dsimp only
    split
    · rw [if_pos (by dsimp only; omega)]
      exact ⟨_, rfl, by dsimp only; omega, by dsimp only; omega⟩
    · rw [if_pos (by dsimp only; omega)]
      exact ⟨_, rfl, by dsimp only; omega, by dsimp only; omega⟩

theorem log2_le {n k : Nat} (h : n ≤ 2 ^ k) : n.log2 ≤ k := by
  rcases Nat.eq_zero_or_pos n with rfl | hpos
  · exact Nat.zero_le k
  · have hlt : n < 2 ^ (k + 1) := by
      rw [Nat.pow_succ]
      have hpow : 0 < 2 ^ k := Nat.pow_pos (by decide)
      omega
    exact Nat.lt_succ_iff.mp ((Nat.log2_lt (Nat.ne_of_gt hpos)).mpr hlt)

theorem log2_mul_pow_le {m a : Nat} (h : m ≤ 2 ^ a) (k : Nat) : (m * 2 ^ k).log2 ≤ a + k := by
  refine log2_le ?_
  rw [Nat.pow_add]
  exact Nat.mul_le_mul_right _ h

theorem Scaled.mul_double {a b : Scaled} (ha : a.mantissa ≤ 2 ^ 54) (hb : b.mantissa ≤ 2 ^ 54)
    (h : a.exponent + b.exponent ≤ 800) : ∃ x, a.mul .double b = some x := by
  have hproduct : a.mantissa * b.mantissa ≤ 2 ^ (54 + 54) := by
    rw [Nat.pow_add]
    exact Nat.mul_le_mul ha hb
  have hquotient : ∀ q, (⟨a.mantissa * b.mantissa, a.exponent + b.exponent⟩ : Scaled).toQuotient = q →
      0 < q.2 ∧ q.1.log2 ≤ 908 := by
    rintro q rfl
    unfold toQuotient divPow
    dsimp only
    split
    · exact ⟨Nat.mul_pos Nat.one_pos (Nat.pow_pos (by decide)),
        Nat.le_trans (log2_le hproduct) (by decide)⟩
    · have hlog := log2_mul_pow_le hproduct (-(-(a.exponent + b.exponent))).toNat
      exact ⟨Nat.one_pos, Nat.le_trans hlog (by omega)⟩
  obtain ⟨hden, hnum⟩ := hquotient _ rfl
  unfold mul
  dsimp only
  generalize (⟨a.mantissa * b.mantissa, a.exponent + b.exponent⟩ : Scaled).toQuotient = q at *
  obtain ⟨x, hx, -, -⟩ := nearest_bounds .double q.1 hden (by
    simp only [Format.double]
    omega)
  exact ⟨x, hx⟩

end Binary

namespace Json

open Binary

theorem powerOfTen_bounds :
    ∀ n ≤ 100, (powerOfTen n).mantissa ≤ 2 ^ 54 ∧ (powerOfTen n).exponent ≤ 300 := by
  decide +kernel

/-- A significand is scaled by any power of ten up to the hundredth. -/
theorem scale_isOk {s : Nat} (hs : s < UInt64.size) {e : Int} (he : e ≤ 100) :
    ∃ x, scale s e = .ok x := by
  unfold scale
  dsimp only
  split
  · split
    · exact ⟨_, rfl⟩
    have hlog : s.log2 ≤ 64 := log2_le (Nat.le_of_lt hs)
    obtain ⟨hmantissa, hexponent⟩ := powerOfTen_bounds e.toNat (by omega)
    obtain ⟨f, hf, hfm, hfe⟩ := nearest_bounds .double s Nat.one_pos (by
      simp only [Format.double]
      omega)
    simp only [Format.double] at hfm hfe
    obtain ⟨x, hx⟩ := Scaled.mul_double hfm hmantissa (by omega)
    rw [if_neg (by omega), hf, Option.getD_some, hx]
    exact ⟨x, rfl⟩
  · split
    · exact ⟨_, rfl⟩
    split
    · exact ⟨_, rfl⟩
    · exact ⟨_, rfl⟩

/-! ### Numerals within range -/

theorem appendDigits_bounds {s : Nat} (hs : s < UInt64.size) (ds : Bytes) :
    (appendDigits s ds).1 < UInt64.size ∧ (appendDigits s ds).2.length ≤ ds.length := by
  induction ds generalizing s with
  | nil => exact ⟨hs, Nat.le_refl _⟩
  | cons b ds ih =>
      unfold appendDigits
      dsimp only
      split
      · rename_i h
        simp only [Bool.and_eq_true, decide_eq_true_eq] at h
        obtain ⟨hlt, hle⟩ := ih h.2
        exact ⟨hlt, Nat.le_trans hle (Nat.le_succ _)⟩
      · exact ⟨hs, Nat.le_refl _⟩

/-- A numeral without a needless zero in front, whose digits and exponent are few, is a number. -/
theorem Numeral.value?_isSome {n : Numeral} (hzero : ∀ b bs, n.whole ≠ 0x30 :: b :: bs)
    (h : n.exponentValue + n.whole.length ≤ 100) : ∃ x, n.value? = some x := by
  obtain ⟨hs, homitted⟩ := appendDigits_bounds (s := 0) (by decide) n.whole
  have hvalue : n.value? =
      n.tailValue? (appendDigits 0 n.whole).1 (appendDigits 0 n.whole).2.length := by
    unfold value?
    split
    · rename_i b bs hwhole
      exact absurd hwhole (hzero b bs)
    · rfl
  rw [hvalue]
  generalize appendDigits 0 n.whole = whole at *
  unfold tailValue?
  split
  · exact ⟨_, rfl⟩
  · obtain ⟨hs', hleft⟩ := appendDigits_bounds hs n.fraction
    dsimp only
    generalize appendDigits whole.1 n.fraction = fraction at *
    obtain ⟨x, hx⟩ := scale_isOk hs' (e := (whole.2.length : Int) -
      (n.fraction.length - fraction.2.length : Nat) + n.exponentValue) (by omega)
    rw [hx]
    exact ⟨_, rfl⟩

end Json
end TodoPromo
