import Mathlib.Data.List.Forall2
import TodoPromo.Text.Characters
import TodoPromo.Text.Lowercase

/-! # ASCII characters

Digits by their code points, and lower-casing on ASCII texts: there it maps every character by itself
(`lowercase_ascii`), so that two spellings of a text that differ in the case of letters alone are the same
text in small letters (`lowercase_spelling`). A number in base ten, with any zeros in front, consists of
digits and has the value of the number (`isDigit_leadingZeros`, `ofDigitChars_leadingZeros`). -/

namespace TodoPromo.Text

theorem toNat_of_isDigit {c : Char} (h : c.isDigit = true) : 48 ≤ c.toNat ∧ c.toNat ≤ 57 := by
  simp only [Char.isDigit, Bool.and_eq_true, decide_eq_true_eq, UInt32.le_iff_toNat_le] at h
  exact h

/-! ### Small letters -/

/-- The run of the capitals A to Z. -/
def asciiRun : CaseRun := ⟨0x41, 0x5A, 1, 0x61⟩

/-- All other capitals are beyond ASCII. -/
theorem findSome?_caseRuns {n : Nat} (h : n < 128) :
    caseRuns.findSome? (·.lower? n) = asciiRun.lower? n := by
  have hbeyond : ∀ r ∈ caseRuns.tail, 128 ≤ r.first := by decide +kernel
  have hnone : caseRuns.tail.findSome? (·.lower? n) = none := by
    rw [List.findSome?_eq_none_iff]
    intro r hr
    have hfirst := hbeyond r hr
    rw [CaseRun.lower?, if_neg (by simp; omega)]
  have hruns : caseRuns = asciiRun :: caseRuns.tail := rfl
  rw [hruns, List.findSome?_cons]
  cases asciiRun.lower? n with
  | some m => rfl
  | none => exact hnone

theorem lowerChar_ascii {c : Char} (h : c.toNat < 128) : lowerChar c = c.toLower := by
  have hletters : ∀ n < 128, (asciiRun.lower? n).elim (Char.ofNat n) Char.ofNat =
      (Char.ofNat n).toLower := by
    decide +kernel
  have hlower := hletters c.toNat h
  rw [Char.ofNat_toNat] at hlower
  rw [lowerChar, findSome?_caseRuns h]
  cases hrun : asciiRun.lower? c.toNat with
  | some n =>
      rw [hrun] at hlower
      exact hlower
  | none =>
      rw [hrun] at hlower
      exact hlower

theorem lowerFrom_ascii {cs : List Char} (h : ∀ c ∈ cs, c.toNat < 128) (before : List Char) :
    lowerFrom before cs = cs.map Char.toLower := by
  induction cs generalizing before with
  | nil => rfl
  | cons c cs ih =>
      have hc := h c (by simp)
      have hdotted : c ≠ 'İ' := by
        rintro rfl
        exact absurd hc (by decide)
      have hsigma : c ≠ 'Σ' := by
        rintro rfl
        exact absurd hc (by decide)
      rw [lowerFrom, lowerAt, if_neg hdotted, if_neg hsigma, lowerChar_ascii hc,
        ih fun c' hc' => h c' (by simp [hc'])]
      rfl

theorem lowercase_ascii {s : String} (h : ∀ c ∈ s.toList, c.toNat < 128) :
    lowercase s = String.ofList (s.toList.map Char.toLower) := by
  rw [lowercase, lowerFrom_ascii h]

/-- One text is another one with some letters in upper or lower case. -/
def IsSpelling (s t : String) : Prop :=
  List.Forall₂ (fun c d => c = d ∨ c = d.toUpper ∨ c = d.toLower) s.toList t.toList

theorem toLower_ofNat : ∀ n < 128, (Char.ofNat n).toUpper.toNat < 128 ∧
    (Char.ofNat n).toLower.toNat < 128 ∧
    (Char.ofNat n).toUpper.toLower = (Char.ofNat n).toLower ∧
    (Char.ofNat n).toLower.toLower = (Char.ofNat n).toLower := by
  decide +kernel

/-- Letter by letter, what spells an ASCII text is ASCII, and the same in small letters. -/
theorem toLower_spelling {cs ds : List Char}
    (h : List.Forall₂ (fun c d => c = d ∨ c = d.toUpper ∨ c = d.toLower) cs ds)
    (hds : ∀ d ∈ ds, d.toNat < 128) :
    (∀ c ∈ cs, c.toNat < 128) ∧ cs.map Char.toLower = ds.map Char.toLower := by
  induction h with
  | nil => exact ⟨fun c hc => absurd hc List.not_mem_nil, rfl⟩
  | @cons c d cs ds hcd _ ih =>
      obtain ⟨hascii, hsame⟩ := ih fun d' hd' => hds d' (by simp [hd'])
      have hd := hds d (by simp)
      have hcase := toLower_ofNat d.toNat hd
      rw [Char.ofNat_toNat] at hcase
      have hc : c.toNat < 128 ∧ c.toLower = d.toLower := by
        obtain rfl | rfl | rfl := hcd
        · exact ⟨hd, rfl⟩
        · exact ⟨hcase.1, hcase.2.2.1⟩
        · exact ⟨hcase.2.1, hcase.2.2.2⟩
      refine ⟨List.forall_mem_cons.mpr ⟨hc.1, hascii⟩, ?_⟩
      rw [List.map_cons, List.map_cons, hc.2, hsame]

/-- Spellings of an ASCII text are the same in small letters. -/
theorem lowercase_spelling {s t : String} (h : IsSpelling s t) (ht : ∀ c ∈ t.toList, c.toNat < 128) :
    lowercase s = lowercase t := by
  obtain ⟨hs, hsame⟩ := toLower_spelling h ht
  rw [lowercase_ascii hs, lowercase_ascii ht, hsame]

/-! ### Numbers in base ten -/

theorem isBlank_of_isDigit {c : Char} (h : c.isDigit = true) : isBlank c = false := by
  have hc := toNat_of_isDigit h
  simp only [isBlank, blankRanges, Ranges.has, List.any_cons, List.any_nil, Bool.or_false,
    Bool.or_eq_false_iff, Bool.and_eq_false_iff, decide_eq_false_iff_not]
  omega

/-- More digits behind a number do not make it smaller. -/
theorem le_ofDigitChars (ds : List Char) (n : Nat) : n ≤ Nat.ofDigitChars 10 ds n := by
  induction ds generalizing n with
  | nil => exact Nat.le_refl n
  | cons d ds ih =>
      rw [Nat.ofDigitChars_cons]
      exact Nat.le_trans (by omega) (ih _)

theorem isDigit_leadingZeros (zeros n : Nat) :
    ∀ c ∈ List.replicate zeros '0' ++ Nat.toDigits 10 n, c.isDigit = true := by
  intro c hc
  rcases List.mem_append.mp hc with hc | hc
  · rw [List.eq_of_mem_replicate hc]
    rfl
  · exact Nat.isDigit_of_mem_toDigits (by decide) (by decide) hc

theorem ofDigitChars_leadingZeros (zeros n : Nat) :
    Nat.ofDigitChars 10 (List.replicate zeros '0' ++ Nat.toDigits 10 n) 0 = n := by
  rw [Nat.ofDigitChars_append, Nat.ofDigitChars_replicate_zero, Nat.mul_zero,
    Nat.ofDigitChars_ten_toDigits]

end TodoPromo.Text
