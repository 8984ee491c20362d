import TodoPromo.Proofs.Decimal.Nearness
import TodoPromo.Proofs.Json.WrittenNumbers
import TodoPromo.Proofs.Text.Ascii

/-! # What a written decimal is scaled to

A decimal below one is read as its digits, scaled by a negative power of ten (`exists_numeral_below_one`).
The digits and the power are numbers of 64 bits or close to one, so that the quotient is off the decimal
by hardly more than two roundings (`scale_close`). -/

namespace TodoPromo.Json

open Binary Decimal

/-! ### Digits -/

theorem appendDigits_ascii {ds : List Char} (hds : ∀ c ∈ ds, c.isDigit = true) {s : Nat}
    (h : Nat.ofDigitChars 10 ds s < UInt64.size) :
    appendDigits s (ascii ds) = (Nat.ofDigitChars 10 ds s, []) := by
  induction ds generalizing s with
  | nil => rfl
  | cons d ds ih =>
      rw [Nat.ofDigitChars_cons] at h
      have hd := hds d (by simp)
      have hstep : s * 10 + (UInt8.ofNat d.toNat - 0x30).toNat = 10 * s + (d.toNat - '0'.toNat) := by
        rw [digit_byte hd, Nat.mul_comm]
        rfl
      have hfits := Nat.lt_of_le_of_lt (Text.le_ofDigitChars ds _) h
      rw [ascii_cons, appendDigits, hstep, isDigit_of_isDigit hd]
      simp only [hfits, decide_true, Bool.and_self, if_true]
      exact ih (fun c hc => hds c (by simp [hc])) h

theorem ofDigitChars_zeros (n : Nat) (ds : List Char) :
    Nat.ofDigitChars 10 (zeros n ++ ds) 0 = Nat.ofDigitChars 10 ds 0 := by
  rw [zeros, Nat.ofDigitChars_append, Nat.ofDigitChars_replicate_zero, Nat.mul_zero]

/-! ### Numerals below one -/

/-- What a number comes to that is read as a significand and a power of ten. -/
def Numeral.scaled (negative : Bool) (s : Nat) (e : Int) : Option Number :=
  match scale s e with
  | .ok x => some (.float negative x)
  | .error _ => none

theorem Numeral.tailValue?_of_digits {n : Numeral} {ds : List Char} {s : Nat}
    (hfraction : n.fraction = ascii ds) (hds : ∀ c ∈ ds, c.isDigit = true)
    (hfloat : n.fraction ≠ [] ∨ n.exponent ≠ none) (hfits : Nat.ofDigitChars 10 ds s < UInt64.size) :
    n.tailValue? s 0 =
      Numeral.scaled n.negative (Nat.ofDigitChars 10 ds s) (n.exponentValue - ds.length) := by
  have hlength : (ascii ds).length = ds.length := List.length_map ..
  have hexponent : (0 : Int) - ds.length + n.exponentValue = n.exponentValue - ds.length := by omega
  unfold tailValue?
  rw [if_neg (by tauto), hfraction, appendDigits_ascii hds hfits]
  dsimp only
  rw [hlength, List.length_nil, Nat.sub_zero, Int.natCast_zero, hexponent]
  rfl

theorem Numeral.value?_pointed_zero {ds : List Char} (hne : ds ≠ []) (hds : ∀ c ∈ ds, c.isDigit = true)
    (hfits : Nat.ofDigitChars 10 ds 0 < UInt64.size) (negative : Bool) :
    ({ pointed ['0'] ds (by simp) (by simp) hds with negative } : Numeral).value? =
      Numeral.scaled negative (Nat.ofDigitChars 10 ds 0) (-(ds.length : Int)) := by
  have htail := tailValue?_of_digits
    (n := { pointed ['0'] ds (by simp) (by simp) hds with negative }) rfl hds
    (.inl (ascii_ne_nil hne)) hfits
  have hexponent : (0 : Int) - ds.length = -(ds.length : Int) := Int.zero_sub _
  rw [← hexponent]
  exact htail

theorem Numeral.value?_scientific {d : Char} {ds : List Char} {e : Int} (hd : d.isDigit = true)
    (hds : ∀ c ∈ ds, c.isDigit = true) (hfits : Nat.ofDigitChars 10 (d :: ds) 0 < UInt64.size)
    (negative : Bool) :
    ({ scientific d ds e hd hds with negative } : Numeral).value? =
      Numeral.scaled negative (Nat.ofDigitChars 10 (d :: ds) 0) (e - ds.length) := by
  have hfirst : Nat.ofDigitChars 10 (d :: ds) 0 = Nat.ofDigitChars 10 ds (Nat.ofDigitChars 10 [d] 0) :=
    Nat.ofDigitChars_append (l := [d]) 0
  rw [hfirst] at hfits ⊢
  have hdigit : ∀ c ∈ [d], c.isDigit = true := List.forall_mem_singleton.mpr hd
  have hwhole := appendDigits_ascii (s := 0) hdigit
    (Nat.lt_of_le_of_lt (Text.le_ofDigitChars ds _) hfits)
  have htail := tailValue?_of_digits (n := { scientific d ds e hd hds with negative }) rfl hds
    (.inr (Option.some_ne_none _)) hfits
  have hexponent : ({ scientific d ds e hd hds with negative } : Numeral).exponentValue = e :=
    exponentValue_scientific d ds e hd hds
  rw [hexponent] at htail
  rw [← htail]
  unfold value?
  split
  · rename_i hzero
    cases (List.cons.inj hzero).2
  · change Numeral.tailValue? _ (appendDigits 0 (ascii [d])).1 (appendDigits 0 (ascii [d])).2.length = _
    rw [hwhole]
    rfl

/-- A decimal below one is written as a numeral that is read as its digits and its power of ten. -/
theorem exists_numeral_below_one (l : Layout) {s : Scientific} (hfits : s.digits < UInt64.size)
    (hlead : s.lead < 0) :
    ∃ n : Numeral, n.unsignedText = ascii (l.write s) ∧
      ∀ negative, ({ n with negative } : Numeral).value? = Numeral.scaled negative s.digits s.exponent := by
  have hds := isDigit_of_mem_digitsOf (n := s.digits)
  have hne : digitsOf s.digits ≠ [] := Nat.toDigits_ne_nil
  have hvalue : Nat.ofDigitChars 10 (digitsOf s.digits) 0 = s.digits := Nat.ofDigitChars_ten_toDigits
  unfold Layout.write
  unfold Scientific.lead at hlead
  dsimp only
  generalize digitsOf s.digits = ds at *
  split
  · -- the digits follow the point, behind zeros
    rw [List.cons_append, List.cons_append]
    generalize hk : (-(s.exponent + ((ds.length - 1 : Nat) : Int)) - 1).toNat = k
    have hfraction : ∀ c ∈ zeros k ++ ds, c.isDigit = true :=
      List.forall_mem_append.mpr ⟨isDigit_of_mem_zeros, hds⟩
    have hfraction_ne : zeros k ++ ds ≠ [] := List.append_ne_nil_of_right_ne_nil _ hne
    have hlength := List.length_pos_iff.mpr hne
    refine ⟨Numeral.pointed ['0'] _ (by simp) (by simp) hfraction,
      Numeral.unsignedText_pointed hfraction_ne _ _ _, fun negative => ?_⟩
    rw [Numeral.value?_pointed_zero hfraction_ne hfraction (by rw [ofDigitChars_zeros, hvalue]; exact hfits),
      ofDigitChars_zeros, hvalue, List.length_append, zeros, List.length_replicate]
    congr 1
    omega
  · obtain ⟨d, rest, rfl⟩ := List.exists_cons_of_ne_nil hne
    obtain ⟨hd, hrest⟩ := List.forall_mem_cons.mp hds
    have hexponent : s.exponent + ((d :: rest).length - 1 : Nat) - rest.length = s.exponent := by
      rw [List.length_cons]
      omega
    have hread := Numeral.value?_scientific (e := s.exponent + ((d :: rest).length - 1 : Nat)) hd hrest
      (hvalue.symm ▸ hfits)
    rw [hexponent, hvalue] at hread
    exact ⟨Numeral.scientific d rest _ hd hrest, Numeral.unsignedText_scientific d rest _ hd hrest, hread⟩

/-! ### Accuracy -/

theorem double_close {m k : Nat} (hk : 0 < k) (hlow : 2 ^ (-500 : Int) ≤ (m / k : ℚ))
    (hhigh : (m / k : ℚ) ≤ 2 ^ (500 : Int)) :
    ∃ d, Format.double.nearest m k = some d ∧ |d.value - m / k| ≤ m / k / 2 ^ 53 := by
  refine Format.nearest_close (F := .double) (by decide) hk (le_trans ?_ hlow) (lt_of_le_of_lt hhigh ?_)
  · exact zpow_le_zpow_right₀ one_le_two (by decide)
  · exact zpow_lt_zpow_right₀ one_lt_two (by decide)

theorem ten_pow_le {n : Nat} (hn : n ≤ 100) : (10 : ℚ) ^ n ≤ 2 ^ (400 : Int) := by
  calc (10 : ℚ) ^ n ≤ 10 ^ 100 := pow_le_pow_right₀ (by norm_num) hn
    _ ≤ (2 ^ 4) ^ 100 := by gcongr; norm_num
    _ = 2 ^ (400 : Int) := by rw [← pow_mul]; exact (zpow_natCast 2 400).symm

theorem powerOfTen_close {n : Nat} (hn : n ≤ 100) :
    |(powerOfTen n).value - 10 ^ n| ≤ 10 ^ n / 2 ^ 53 := by
  have hone : (1 : ℚ) ≤ 10 ^ n := one_le_pow₀ (by norm_num)
  have hquotient : ((Nat.pow 10 n : Nat) : ℚ) / (1 : Nat) = 10 ^ n := by
    rw [Nat.pow_eq, Nat.cast_one, div_one]
    push_cast
    rfl
  obtain ⟨d, hd, hclose⟩ := double_close (m := Nat.pow 10 n) Nat.one_pos
    (by rw [hquotient]; exact le_trans (zpow_le_one_of_nonpos₀ one_le_two (by decide)) hone)
    (by rw [hquotient]; exact le_trans (ten_pow_le hn) (zpow_le_zpow_right₀ one_le_two (by decide)))
  rw [hquotient] at hclose
  have hpower : powerOfTen n = d := by
    unfold powerOfTen
    rw [hd]
    rfl
  rw [hpower]
  exact hclose

/-- A quotient by a number that is off by one rounding, rounded itself, is off by hardly more than two. -/
theorem close_of_two_roundings {c T P y ε : ℚ} (hc : 0 < c) (hT : 0 < T) (hε : 0 < ε) (hε' : ε ≤ 1 / 100)
    (hP : |P - T| ≤ T * ε) (hy : |y - c / P| ≤ c / P * ε) : |y - c / T| ≤ 21 / 10 * ε * (c / T) := by
  obtain ⟨hP_low, hP_high⟩ := abs_le.mp hP
  obtain ⟨hy_low, hy_high⟩ := abs_le.mp hy
  have hTε : T * ε ≤ T * (1 / 100) := by gcongr
  have hPpos : 0 < P := by linarith
  have hD : 0 < c / T := by positivity
  have hw : 0 < c / P := by positivity
  have hsame : c / P * P = c / T * T := by
    rw [div_mul_cancel₀ _ hPpos.ne', div_mul_cancel₀ _ hT.ne']
  generalize c / T = D at *
  generalize c / P = w at *
  -- the quotient by what stands for the power is off by hardly more than one rounding
  have hw_high : w * (1 - ε) ≤ D := by
    refine le_of_mul_le_mul_right ?_ hT
    calc w * (1 - ε) * T = w * (T - T * ε) := by ring
      _ ≤ w * P := by gcongr; linarith
      _ = D * T := hsame
  have hw_low : D ≤ w * (1 + ε) := by
    refine le_of_mul_le_mul_right ?_ hT
    calc D * T = w * P := hsame.symm
      _ ≤ w * (T + T * ε) := by gcongr; linarith
      _ = w * (1 + ε) * T := by ring
  have hwε : w * ε ≤ w * (1 / 100) := by gcongr
  have hwεε : w * ε * ε ≤ w * ε * (1 / 100) := by gcongr
  have hDε : w * ε - w * ε * ε ≤ D * ε := by
    calc w * ε - w * ε * ε = w * (1 - ε) * ε := by ring
      _ ≤ D * ε := by gcongr
  have hwε0 : 0 < w * ε := by positivity
  rw [abs_le]
  constructor <;> linarith

theorem value_powerOfTen_bounds {n : Nat} (hn : n ≤ 100) :
    1 / 2 ≤ (powerOfTen n).value ∧ (powerOfTen n).value ≤ 2 * 10 ^ n := by
  have hone : (1 : ℚ) ≤ 10 ^ n := one_le_pow₀ (by norm_num)
  have hhalf : (10 : ℚ) ^ n / 2 ^ 53 ≤ 10 ^ n / 2 := by
    gcongr
    norm_num
  obtain ⟨hlow, hhigh⟩ := abs_le.mp (powerOfTen_close hn)
  constructor <;> linarith

theorem scaled_bounds {c n : Nat} (hpos : 0 < c) (hc : c < 2 ^ 53) (hn : n ≤ 100) :
    2 ^ (-500 : Int) ≤ (c : ℚ) / (powerOfTen n).value ∧ (c : ℚ) / (powerOfTen n).value ≤ 2 ^ (500 : Int) := by
  obtain ⟨hP, hP'⟩ := value_powerOfTen_bounds hn
  have hcq : (1 : ℚ) ≤ c := by exact_mod_cast hpos
  constructor
  · rw [le_div_iff₀ (by linarith)]
    calc (2 : ℚ) ^ (-500 : Int) * (powerOfTen n).value ≤ 2 ^ (-500 : Int) * (2 * 2 ^ (400 : Int)) := by
          gcongr
          exact le_trans hP' (by linarith [ten_pow_le hn])
      _ ≤ 1 := by
          rw [← zpow_one_add₀ two_ne_zero, ← zpow_add₀ two_ne_zero]
          exact zpow_le_one_of_nonpos₀ one_le_two (by decide)
      _ ≤ c := hcq
  · rw [div_le_iff₀ (by linarith)]
    calc (c : ℚ) ≤ 2 ^ (53 : Int) := by
          rw [show (53 : Int) = ((53 : Nat) : Int) from rfl, zpow_natCast]
          exact_mod_cast hc.le
      _ ≤ 2 ^ (500 - 1 : Int) := zpow_le_zpow_right₀ one_le_two (by decide)
      _ = 2 ^ (500 : Int) * (1 / 2) := by rw [zpow_sub_one₀ two_ne_zero, one_div]
      _ ≤ 2 ^ (500 : Int) * (powerOfTen n).value := by gcongr

/-- A significand that is an integer of 64 bits, scaled down, is off by hardly more than two roundings. -/
theorem scale_close {c n : Nat} (hpos : 0 < c) (hc : c < 2 ^ 53) (hn : 0 < n) (hn' : n ≤ 100) :
    ∃ y, scale c (-(n : Int)) = .ok y ∧ |y.value - c / 10 ^ n| ≤ 21 / 10 * (1 / 2 ^ 53) * (c / 10 ^ n) := by
  obtain ⟨f, hf, hfvalue⟩ := Format.nearest_natCast (F := .double) (by decide) (by decide) (by decide) hpos hc
  have hmantissa : 0 < (powerOfTen n).mantissa := by
    rcases Nat.eq_zero_or_pos (powerOfTen n).mantissa with hzero | hpos
    · have hP := (value_powerOfTen_bounds hn').1
      rw [Scaled.value, hzero, Nat.cast_zero, zero_mul] at hP
      norm_num at hP
    · exact hpos
  obtain ⟨hlow, hhigh⟩ := scaled_bounds hpos hc hn'
  obtain ⟨hden, hquotient⟩ := f.div_quotient hmantissa
  rw [hfvalue] at hquotient
  obtain ⟨y, hy, hclose⟩ := double_close hden (hlow.trans_eq hquotient.symm) (hquotient.trans_le hhigh)
  have hpower := powerOfTen_close hn'
  rw [hquotient, div_eq_mul_one_div _ (2 ^ 53)] at hclose
  rw [div_eq_mul_one_div (10 ^ n)] at hpower
  refine ⟨y, ?_, close_of_two_roundings (by positivity) (by positivity) (by norm_num) (by norm_num) hpower hclose⟩
  unfold scale
  dsimp only
  rw [hf, if_neg (by omega), Int.natAbs_neg, Int.natAbs_natCast, if_pos (by omega)]
  unfold Scaled.div
  dsimp only [Option.getD_some]
  rw [hy]
  rfl

end TodoPromo.Json
