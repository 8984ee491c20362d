import TodoPromo.Proofs.Decimal.Midpoints
import TodoPromo.Proofs.Json.Kinds
import TodoPromo.Proofs.Json.Scaling

/-! # Numbers of 32 bits below one are read back exactly

A number of 32 bits is written as its shortest decimal, and the decimal is rounded twice and more when it
is read: its digits are scaled with 64 bits first. The shortest decimal lies between the middles of the
gaps around the number, and it stays on its side of both under these roundings (`same_side`): if it has
few digits, since decimals of few digits keep away from middles (`apart_midpoint`), and otherwise since it
is the closest one on a fine grid (`shortest_within`). So the number comes back (`reread_single`). -/

namespace TodoPromo

/-- The number itself, for a finite number. -/
def Single.value (x : Single) : ℚ := (if x.negative then -1 else 1) * x.magnitude.value

theorem Single.value_eq {x : Single} {d : Binary.Scaled} (hsign : x.negative = false)
    (hd : x.magnitude = d) : x.value = d.mantissa * 2 ^ d.exponent := by
  rw [value, hsign, hd, if_neg Bool.false_ne_true, one_mul]
  rfl

theorem Single.abs_value (x : Single) : |x.value| = x.magnitude.value := by
  have hnonneg : 0 ≤ x.magnitude.value := by
    unfold Binary.Scaled.value
    positivity
  unfold value
  split
  · rw [neg_one_mul, abs_neg, abs_of_nonneg hnonneg]
  · rw [one_mul, abs_of_nonneg hnonneg]

namespace Json

open Binary Decimal

/-! ### Middles of gaps -/

/-- The fraction `m / 2 ^ t` is the middle of a gap between numbers of 32 bits below one. -/
structure IsMiddle (e : ℚ) (t m : Nat) : Prop where
  eq : e = m / 2 ^ t
  le : 25 ≤ t
  ge : t ≤ 150
  odd : m % 2 = 1
  lt : m < 2 ^ 25
  full : t = 150 ∨ 2 ^ 24 ≤ m

theorem mul_zpow_eq_div (m : ℚ) {q : Int} {t : Nat} (h : q = -(t : Int)) : m * 2 ^ q = m / 2 ^ t := by
  rw [h, zpow_neg, zpow_natCast, ← div_eq_mul_inv]

section
variable {d : Scaled} (hd : Format.single.Holds d) (hbelow : d.exponent ≤ -24)
include hd hbelow

theorem exists_middle_upper : ∃ t m, IsMiddle (Format.upper d) t m := by
  obtain ⟨m, q⟩ := d
  obtain ⟨hlt, hleast, -, hfull⟩ := hd
  simp only [Format.single] at hlt hleast hfull hbelow
  refine ⟨(1 - q).toNat, 2 * m + 1, ?_, by omega, by omega, by omega, by omega, by omega⟩
  rw [Format.upper_eq, ← mul_zpow_eq_div (q := q - 1) _ (by omega), zpow_sub_one₀ two_ne_zero]
  push_cast
  ring

theorem exists_middle_lower (hpos : 0 < d.mantissa) : ∃ t m, IsMiddle (Format.single.lower d) t m := by
  obtain ⟨m, q⟩ := d
  obtain ⟨hlt, hleast, -, hfull⟩ := hd
  simp only [Format.single] at hlt hleast hfull hbelow hpos
  by_cases hnarrow : Format.single.Narrow ⟨m, q⟩
  · have hpower := hnarrow.1
    have hleast' := hnarrow.2
    simp only [Format.single] at hpower hleast'
    refine ⟨(2 - q).toNat, 4 * m - 1, ?_, by omega, by omega, by omega, by omega, by omega⟩
    rw [Format.lower_of_narrow hnarrow, ← mul_zpow_eq_div (q := q - 2) _ (by omega), Nat.cast_sub (by omega),
      Format.two_pow_quarters q]
    push_cast
    ring
  · have hwide : ¬ (m = 2 ^ 23 ∧ -149 < q) := hnarrow
    refine ⟨(1 - q).toNat, 2 * m - 1, ?_, by omega, by omega, by omega, by omega, by omega⟩
    rw [Format.lower_of_not_narrow hnarrow, ← mul_zpow_eq_div (q := q - 1) _ (by omega),
      Nat.cast_sub (by omega), zpow_sub_one₀ two_ne_zero]
    push_cast
    ring

end

/-! ### The sides of a middle -/

theorem same_side_of_close {D e y gap : ℚ} (hclose : |y - D| ≤ gap) (hgap : gap < |D - e|) :
    (D ≤ e → y < e) ∧ (e ≤ D → e < y) := by
  obtain ⟨hlow, hhigh⟩ := abs_le.mp hclose
  constructor
  · intro h
    rw [abs_of_nonpos (by linarith)] at hgap
    linarith
  · intro h
    rw [abs_of_nonneg (by linarith)] at hgap
    linarith

theorem below_of_read {c n m t k s : Nat} (hread : scale c (-(n : Int)) = .ok ⟨k, -(s : Int)⟩)
    (hbelow : c * 2 ^ t < m * 10 ^ n) (hbelow' : k * 2 ^ t < m * 2 ^ s) {y : Scaled}
    (hy : scale c (-(n : Int)) = .ok y) : (c : ℚ) / 10 ^ n < m / 2 ^ t ∧ y.value < m / 2 ^ t := by
  obtain rfl := Except.ok.inj (hread.symm.trans hy)
  have hvalue : Scaled.value ⟨k, -(s : Int)⟩ = k / 2 ^ s := mul_zpow_eq_div _ rfl
  rw [hvalue, div_lt_div_iff₀ (by positivity) (by positivity), div_lt_div_iff₀ (by positivity) (by positivity)]
  exact ⟨by exact_mod_cast hbelow, by exact_mod_cast hbelow'⟩

/-- The decimals that are too close to a middle are on the same side of it when they are read. -/
theorem same_side_of_closeCall {t n c m : Nat} (h : (t, n, c, m) ∈ closeCalls) {y : Scaled}
    (hy : scale c (-(n : Int)) = .ok y) :
    (c : ℚ) / 10 ^ n < m / 2 ^ t ∧ y.value < m / 2 ^ t := by
  simp only [closeCalls, List.mem_cons, Prod.mk.injEq, List.not_mem_nil, or_false] at h
  obtain ⟨rfl, rfl, rfl, rfl⟩ | ⟨rfl, rfl, rfl, rfl⟩ := h
  · have hread : scale 7038531 (-(32 : Nat)) = .ok ⟨6131425250115583, -(136 : Nat)⟩ := by decide +kernel
    exact below_of_read hread (by decide) (by decide) hy
  · have hread : scale 14077062 (-(32 : Nat)) = .ok ⟨6131425250115583, -(135 : Nat)⟩ := by decide +kernel
    exact below_of_read hread (by decide) (by decide) hy

/-- A decimal of few digits is on the same side of a middle when it is read. -/
theorem same_side {e : ℚ} {t m : Nat} (he : IsMiddle e t m) {c n : Nat} (hpos : 0 < c)
    (hc : c ≤ 2 ^ 24 + 1) (hn : n < 54) {y : Scaled} (hy : scale c (-(n : Int)) = .ok y)
    (hclose : |y.value - c / 10 ^ n| ≤ 21 / 10 * (1 / 2 ^ 53) * (c / 10 ^ n)) :
    ((c : ℚ) / 10 ^ n ≤ e → y.value < e) ∧ (e ≤ (c : ℚ) / 10 ^ n → e < y.value) := by
  rw [he.eq]
  rcases apart_midpoint he.le he.ge hn hpos hc he.odd he.lt he.full with hlisted | hapart
  · obtain ⟨hD, hread⟩ := same_side_of_closeCall hlisted hy
    exact ⟨fun _ => hread, fun h => absurd hD (not_lt.mpr h)⟩
  · refine same_side_of_close hclose ?_
    have hapart' : (21 * (c * 2 ^ t) : ℚ) < 10 * 2 ^ 53 * |(c * 2 ^ t - m * 10 ^ n : ℚ)| := by
      unfold Apart at hapart
      exact_mod_cast hapart
    have hdifference : (c : ℚ) / 10 ^ n - m / 2 ^ t = (c * 2 ^ t - m * 10 ^ n) / (10 ^ n * 2 ^ t) := by
      field_simp
    have hgap : (21 / 10 * (1 / 2 ^ 53) * (c / 10 ^ n) : ℚ) =
        21 * (c * 2 ^ t) / (10 * 2 ^ 53) / (10 ^ n * 2 ^ t) := by
      field_simp
    rw [hdifference, hgap, abs_div, abs_of_pos (show (0 : ℚ) < 10 ^ n * 2 ^ t by positivity)]
    gcongr
    rwa [div_lt_iff₀' (by positivity)]

/-! ### Numbers below one -/

theorem pow_lt_of_le {n k c : Nat} (h : 10 ^ n ≤ c * 2 ^ 150) (hc : c * 2 ^ 150 < 10 ^ k) : n < k :=
  (Nat.pow_lt_pow_iff_right (by decide)).mp (Nat.lt_of_le_of_lt h hc)

section
variable {d : Scaled} (hd : Format.single.Holds d) (hpos : 0 < d.mantissa) (hbelow : d.exponent ≤ -24)
include hd hpos

theorem lower_ge : 1 / 2 ^ 150 ≤ Format.single.lower d := by
  obtain ⟨m, q⟩ := d
  have hone : (1 : ℚ) ≤ m := by exact_mod_cast hpos
  have hunit : (2 : ℚ) ^ (-149 : Int) ≤ 2 ^ q := zpow_le_zpow_right₀ one_le_two hd.least_le
  have hleast : (1 / 2 * 2 ^ (-149 : Int) : ℚ) = 1 / 2 / 2 ^ 149 := mul_zpow_eq_div _ rfl
  calc (1 : ℚ) / 2 ^ 150 = 1 / 2 * 2 ^ (-149 : Int) := by
        rw [hleast]
        norm_num
    _ ≤ (m - 1 / 2) * 2 ^ q := mul_le_mul (by linarith) hunit (by positivity) (by linarith)
    _ ≤ Format.single.lower ⟨m, q⟩ := Format.le_lower _ m q

include hbelow

omit hpos in
theorem upper_lt : Format.upper d < 1 := by
  obtain ⟨m, q⟩ := d
  have hm : (m : ℚ) + 1 ≤ 2 ^ 24 := by exact_mod_cast hd.lt
  rw [Format.upper_eq]
  calc ((m : ℚ) + 1 / 2) * 2 ^ q ≤ (m + 1 / 2) * 2 ^ (-24 : Int) := by
        gcongr
        exact one_le_two
    _ = (m + 1 / 2) / 2 ^ 24 := mul_zpow_eq_div (t := 24) _ rfl
    _ < 1 := by
        rw [div_lt_one (by positivity)]
        linarith

/-- The shortest decimal of a number below one has its first digit after the point, and not too far
behind. -/
theorem shortest_below_one :
    0 < (shortest .single d).digits ∧ (shortest .single d).lead < 0 ∧
      ∃ n : Nat, 0 < n ∧ (shortest .single d).exponent = -(n : Int) ∧
        10 ^ n ≤ (shortest .single d).digits * 2 ^ 150 := by
  obtain ⟨-, hlow, hhigh, -⟩ := shortest_within hd hpos (by decide) (J := 8) (by decide) (by decide)
  have hlow' := le_trans (lower_ge hd hpos) hlow
  have hhigh' := lt_of_le_of_lt hhigh (upper_lt hd hbelow)
  generalize shortest .single d = s at *
  obtain ⟨c, k⟩ := s
  unfold Scientific.value at hlow' hhigh'
  unfold Scientific.lead
  dsimp only at *
  have hstep : (0 : ℚ) < 10 ^ k := by positivity
  have hcpos : 0 < c := by
    rcases Nat.eq_zero_or_pos c with rfl | hpos
    · norm_num at hlow'
    · exact hpos
  have hc : (10 : ℚ) ^ ((digitsOf c).length - 1) ≤ c := by
    have hle := pow_digitCount_le hcpos
    rw [digitCount_eq hcpos] at hle
    exact_mod_cast hle
  have hlead : k + ((digitsOf c).length - 1 : Nat) < 0 := by
    have hlt : (10 : ℚ) ^ (k + ((digitsOf c).length - 1 : Nat)) < 10 ^ (0 : Int) := by
      rw [zpow_add₀ (by norm_num), zpow_natCast, mul_comm, zpow_zero]
      exact lt_of_le_of_lt (by gcongr) hhigh'
    exact (zpow_lt_zpow_iff_right₀ (by norm_num)).mp hlt
  obtain ⟨n, rfl⟩ : ∃ n : Nat, k = -(n : Int) := ⟨(-k).toNat, by omega⟩
  refine ⟨hcpos, hlead, n, by omega, rfl, ?_⟩
  rw [zpow_neg, zpow_natCast, ← div_eq_mul_inv, div_le_div_iff₀ (by positivity) (by positivity), one_mul] at hlow'
  exact_mod_cast hlow'

/-- The shortest decimal of a number below one is read as a number between the middles of the gaps. -/
theorem scale_shortest :
    ∃ y, scale (shortest .single d).digits (shortest .single d).exponent = .ok y ∧
      Format.single.lower d < y.value ∧ y.value < Format.upper d := by
  obtain ⟨hdigits, hlow, hhigh, hmany⟩ := shortest_within hd hpos (by decide) (J := 8) (by decide) (by decide)
  obtain ⟨hcpos, -, n, hn, hexponent, hpower⟩ := shortest_below_one hd hpos hbelow
  obtain ⟨tl, ml, hlower⟩ := exists_middle_lower hd hbelow hpos
  obtain ⟨tu, mu, hupper⟩ := exists_middle_upper hd hbelow
  have hvalue : (shortest .single d).value = (shortest .single d).digits / 10 ^ n := by
    rw [Scientific.value, hexponent, zpow_neg, zpow_natCast, ← div_eq_mul_inv]
  rw [hexponent]
  rw [hvalue] at hlow hhigh hmany
  generalize (shortest .single d).digits = c at *
  have hn' : n < 100 := pow_lt_of_le hpower (Nat.lt_of_le_of_lt (Nat.mul_le_mul_right _ hdigits) (by decide))
  obtain ⟨y, hy, hclose⟩ := scale_close hcpos (by omega) hn hn'.le
  refine ⟨y, hy, ?_⟩
  rcases hmany with hfew | ⟨hfar_low, hfar_high⟩
  · have hfew' : n < 54 := pow_lt_of_le hpower (Nat.lt_of_le_of_lt (Nat.mul_le_mul_right _ hfew) (by decide))
    exact ⟨(same_side hlower hcpos hfew hfew' hy hclose).2 hlow,
      (same_side hupper hcpos hfew hfew' hy hclose).1 hhigh⟩
  · have hD : (0 : ℚ) < c / 10 ^ n := by positivity
    obtain ⟨hclose_low, hclose_high⟩ := abs_le.mp hclose
    rw [show Format.single.precision = 24 from rfl] at hfar_low hfar_high
    norm_num at hfar_low hfar_high hclose_low hclose_high
    constructor <;> linarith

end

theorem exponent_le_of_lt {d : Scaled} (hd : Format.single.Holds d) (h : d.value < 1) :
    d.exponent ≤ -24 := by
  rcases hd.full with hleast | hfull
  · rw [hleast]
    decide
  · by_contra hlarge
    have hm : (2 : ℚ) ^ 23 ≤ d.mantissa := by exact_mod_cast hfull
    have hunit : (2 : ℚ) ^ (-23 : Int) ≤ 2 ^ d.exponent := zpow_le_zpow_right₀ one_le_two (by omega)
    have hone : (2 ^ 23 * 2 ^ (-23 : Int) : ℚ) = 2 ^ 23 / 2 ^ 23 := mul_zpow_eq_div _ rfl
    have hge : (2 ^ 23 * 2 ^ (-23 : Int) : ℚ) ≤ d.value :=
      mul_le_mul hm hunit (by positivity) (by positivity)
    rw [hone, div_self (by positivity)] at hge
    linarith

theorem eq_zero_of_mantissa {x : Single} (h : x.magnitude.mantissa = 0) :
    x = ⟨0⟩ ∨ x = ⟨0x80000000⟩ := by
  have hbits : x.bits.toNat < 2 ^ 32 := x.bits.toNat_lt
  have hmagnitude : x.bits.toNat % 0x80000000 = 0 := by
    unfold Single.magnitude Single.magnitudeBits at h
    dsimp only at h
    split at h
    · dsimp only at h
      omega
    · dsimp only at h
      omega
  obtain ⟨bits⟩ := x
  dsimp only at *
  rcases Nat.lt_or_ge bits.toNat 0x80000000 with hlow | hhigh
  · have hzero : bits.toNat = UInt32.toNat 0 := (show bits.toNat = 0 by omega)
    exact .inl (congrArg Single.mk (UInt32.toNat_inj.mp hzero))
  · have hzero : bits.toNat = UInt32.toNat 0x80000000 := (show bits.toNat = 0x80000000 by omega)
    exact .inr (congrArg Single.mk (UInt32.toNat_inj.mp hzero))

/-- A number of 32 bits below one, whatever its sign, is read back as it was, bit for bit. -/
theorem reread_single {x : Single} (hfinite : x.isFinite = true) (h : |x.value| < 1) :
    Kind.single.reread x = some x := by
  have hd := Single.holds_magnitude hfinite
  rcases Nat.eq_zero_or_pos x.magnitude.mantissa with hzero | hpos
  · obtain rfl | rfl := eq_zero_of_mantissa hzero
    · decide +kernel
    · decide +kernel
  rw [x.abs_value] at h
  have hbelow := exponent_le_of_lt hd h
  obtain ⟨-, hlead, -⟩ := shortest_below_one hd hpos hbelow
  obtain ⟨hdigits, -⟩ := shortest_within hd hpos (by decide) (J := 8) (by decide) (by decide)
  obtain ⟨y, hy, hlow, hhigh⟩ := scale_shortest hd hpos hbelow
  obtain ⟨n, htext, hread⟩ := exists_numeral_below_one numberLayout
    (Nat.lt_of_le_of_lt hdigits (by decide)) hlead
  have hvalue? : ({ n with negative := x.negative } : Numeral).value? = some (.float x.negative y) := by
    rw [hread, Numeral.scaled, hy]
  have hwrite : ({ n with negative := x.negative } : Numeral).text = writeSingle x := by
    have hu : ({ n with negative := x.negative } : Numeral).unsignedText = n.unsignedText := rfl
    rw [Numeral.text, hu, htext, writeSingle, if_pos hfinite, Layout.writeScaled, if_neg hpos.ne']
    cases x.negative <;> rfl
  have hround : (Number.float x.negative y).toSingle = x := Single.ofScaled_eq hfinite hpos hlow hhigh
  have hspells := spells_single hvalue?
  rw [hwrite, hround] at hspells
  exact Kind.reread_of_spells (k := .single) hspells

end Json
end TodoPromo
