import TodoPromo.Proofs.Text.Ascii

/-! # Small letters

What lower-casing makes of a text is in small letters already: no small letter of the case table is one
of its capitals (`caseRuns_clear`), and neither is one of the two characters that are not mapped by
themselves. So lower-casing a second time changes nothing (`lowercase_lowercase`). Some characters beyond
ASCII have small letters in ASCII, but none of those comes before the letter g (`lowerChar_beyond`); so a
text whose small letters all come before it is an ASCII text (`ascii_of_lowercase`), and texts of such
letters are the same in small letters exactly if they are so letter by letter (`lowercase_eq_iff`). -/

namespace TodoPromo.Text

/-! ### Runs of capitals -/

namespace CaseRun

variable {r q : CaseRun} {n m : Nat}

theorem lower?_eq_some (h : r.lower? n = some m) :
    r.first ≤ n ∧ n ≤ r.last ∧ (n - r.first) % r.step = 0 ∧ m = r.lower + (n - r.first) := by
  unfold lower? at h
  split at h
  · rename_i hrun
    simp only [Bool.and_eq_true, decide_eq_true_eq, beq_iff_eq] at hrun
    exact ⟨hrun.1.1, hrun.1.2, hrun.2, (Option.some.inj h).symm⟩
  · cases h

/-- No small letter of the first run is a capital of the second: they lie before it or behind it, or they
are the letters left out between capitals that are every second one. -/
def clear (r q : CaseRun) : Bool :=
  (r.lower + (r.last - r.first)).blt q.first || q.last.blt r.lower ||
    (q.step == 2 && (r.step == 2 || r.first == r.last) && (r.lower + q.first) % 2 == 1)

theorem lower?_eq_none_of_clear (h : r.clear q = true) (hm : r.lower? n = some m) :
    q.lower? m = none := by
  obtain ⟨hfirst, hlast, heven, rfl⟩ := lower?_eq_some hm
  cases hq : q.lower? (r.lower + (n - r.first)) with
  | none => rfl
  | some k =>
      obtain ⟨hfirst', hlast', heven', -⟩ := lower?_eq_some hq
      simp only [clear, Bool.or_eq_true, Bool.and_eq_true, Nat.blt_eq, beq_iff_eq] at h
      obtain (hbefore | hbehind) | ⟨⟨hstep', hstep⟩, hodd⟩ := h
      · omega
      · omega
      · rw [hstep'] at heven'
        have hoffset : (n - r.first) % 2 = 0 := by
          obtain hstep | hsingle := hstep
          · rwa [hstep] at heven
          · rw [hsingle] at hfirst ⊢
            omega
        omega

/-- All small letters of the run are characters. -/
def Valid (r : CaseRun) : Prop :=
  r.lower + (r.last - r.first) < 0xD800 ∨
    0xDFFF < r.lower ∧ r.lower + (r.last - r.first) < 0x110000

instance (r : CaseRun) : Decidable r.Valid := inferInstanceAs (Decidable (_ ∨ _ ∧ _))

theorem Valid.toNat_ofNat (h : r.Valid) (hm : r.lower? n = some m) : (Char.ofNat m).toNat = m := by
  obtain ⟨-, hlast, -, rfl⟩ := lower?_eq_some hm
  have hvalid : (r.lower + (n - r.first)).isValidChar := by
    unfold Valid at h
    unfold Nat.isValidChar
    omega
  rw [Char.ofNat, dif_pos hvalid]
  rfl

end CaseRun

/-- The dotted capital I as a run of its own. -/
def dottedRun : CaseRun := ⟨0x130, 0x130, 1, 0x69⟩

theorem caseRuns_clear :
    (caseRuns.all fun r => (dottedRun :: caseRuns).all fun q => r.clear q) = true := by
  decide +kernel

theorem caseRuns_valid : ∀ r ∈ caseRuns, r.Valid := by
  decide +kernel

/-! ### Characters that are not changed -/

/-- A character that lower-casing leaves as it is, wherever it stands. -/
structure IsSmall (c : Char) : Prop where
  ne_dotted : c ≠ 'İ'
  ne_sigma : c ≠ 'Σ'
  lowerChar : lowerChar c = c

instance (c : Char) : Decidable (IsSmall c) :=
  decidable_of_iff (c ≠ 'İ' ∧ c ≠ 'Σ' ∧ lowerChar c = c)
    ⟨fun ⟨hdotted, hsigma, hsame⟩ => ⟨hdotted, hsigma, hsame⟩,
      fun h => ⟨h.ne_dotted, h.ne_sigma, h.lowerChar⟩⟩

/-- No small letter of the table is a capital. -/
theorem isSmall_of_caseRuns {n m : Nat} (h : caseRuns.findSome? (·.lower? n) = some m) :
    IsSmall (Char.ofNat m) := by
  obtain ⟨r, hr, hm⟩ := List.exists_of_findSome?_eq_some h
  have hcode : (Char.ofNat m).toNat = m := (caseRuns_valid r hr).toNat_ofNat hm
  have hclear : ∀ q ∈ dottedRun :: caseRuns, q.lower? m = none := fun q hq =>
    CaseRun.lower?_eq_none_of_clear
      (List.all_eq_true.mp (List.all_eq_true.mp caseRuns_clear r hr) q hq) hm
  have hnone : caseRuns.findSome? (·.lower? m) = none :=
    List.findSome?_eq_none_iff.mpr fun q hq => hclear q (List.mem_cons_of_mem _ hq)
  refine ⟨fun hdotted => ?_, fun hsigma => ?_, ?_⟩
  · obtain rfl : 'İ'.toNat = m := by rw [← hdotted, hcode]
    exact absurd (hclear dottedRun (List.mem_cons_self ..)) (by decide)
  · obtain rfl : 'Σ'.toNat = m := by rw [← hsigma, hcode]
    exact absurd hnone (by decide +kernel)
  · rw [lowerChar, hcode, hnone]

theorem isSmall_lowerChar {c : Char} (h : c ≠ 'İ') : IsSmall (lowerChar c) := by
  unfold lowerChar
  cases hrun : caseRuns.findSome? (·.lower? c.toNat) with
  | some m => exact isSmall_of_caseRuns hrun
  | none =>
      refine ⟨h, ?_, ?_⟩
      · rintro rfl
        exact absurd hrun (by decide +kernel)
      · rw [lowerChar, hrun]

theorem isSmall_of_mem_lowerAt {before after : List Char} {c d : Char}
    (h : d ∈ lowerAt before c after) : IsSmall d := by
  unfold lowerAt at h
  split at h
  · obtain rfl | rfl : d = 'i' ∨ d = '\u0307' := by simpa using h
    · decide +kernel
    · decide +kernel
  · rename_i hdotted
    split at h
    · split at h
      · rw [List.mem_singleton.mp h]
        decide +kernel
      · rw [List.mem_singleton.mp h]
        decide +kernel
    · rw [List.mem_singleton.mp h]
      exact isSmall_lowerChar hdotted

theorem isSmall_of_mem_lowerFrom {before cs : List Char} {d : Char} (h : d ∈ lowerFrom before cs) :
    IsSmall d := by
  induction cs generalizing before with
  | nil => cases h
  | cons c cs ih =>
      obtain hhere | hrest := List.mem_append.mp h
      · exact isSmall_of_mem_lowerAt hhere
      · exact ih hrest

theorem lowerFrom_of_isSmall {cs : List Char} (h : ∀ c ∈ cs, IsSmall c) (before : List Char) :
    lowerFrom before cs = cs := by
  induction cs generalizing before with
  | nil => rfl
  | cons c cs ih =>
      have hc := h c (List.mem_cons_self ..)
      rw [lowerFrom, lowerAt, if_neg hc.ne_dotted, if_neg hc.ne_sigma, hc.lowerChar,
        ih fun c' hc' => h c' (List.mem_cons_of_mem _ hc')]
      rfl

/-- A text in small letters is not changed. -/
theorem lowercase_lowercase (s : String) : lowercase (lowercase s) = lowercase s := by
  unfold lowercase
  rw [String.toList_ofList, lowerFrom_of_isSmall fun c hc => isSmall_of_mem_lowerFrom hc]

/-! ### Letters up to f -/

/-- The last letter that only ASCII characters have for their small letter: the Kelvin sign has a k. -/
def lastPlain : Char := 'f'

/-- The small letter of a character beyond ASCII comes after the letter f. -/
theorem lowerChar_beyond {c : Char} (h : 128 ≤ c.toNat) : lastPlain.toNat < (lowerChar c).toNat := by
  have hruns : caseRuns = asciiRun :: caseRuns.tail := rfl
  have hletters : ∀ r ∈ caseRuns.tail, lastPlain.toNat < r.lower := by decide +kernel
  have hf : lastPlain.toNat < 128 := by decide
  unfold lowerChar
  cases hrun : caseRuns.findSome? (·.lower? c.toNat) with
  | none => exact Nat.lt_of_lt_of_le hf h
  | some m =>
      obtain ⟨r, hr, hm⟩ := List.exists_of_findSome?_eq_some hrun
      change lastPlain.toNat < (Char.ofNat m).toNat
      rw [(caseRuns_valid r hr).toNat_ofNat hm]
      obtain ⟨-, hlast, -, rfl⟩ := CaseRun.lower?_eq_some hm
      rw [hruns] at hr
      obtain rfl | htail := List.mem_cons.mp hr
      · change c.toNat ≤ 0x5A at hlast
        omega
      · exact Nat.lt_of_lt_of_le (hletters r htail) (Nat.le_add_right _ _)

theorem ascii_of_lowerAt {before after : List Char} {c : Char}
    (h : ∀ d ∈ lowerAt before c after, d.toNat ≤ lastPlain.toNat) : c.toNat < 128 := by
  unfold lowerAt at h
  split at h
  · exact absurd (h 'i' (by simp)) (by decide)
  split at h
  · split at h
    · exact absurd (h 'ς' (by simp)) (by decide)
    · exact absurd (h 'σ' (by simp)) (by decide)
  · have hsmall := h (lowerChar c) (List.mem_singleton_self _)
    by_contra hbeyond
    have := lowerChar_beyond (Nat.le_of_not_lt hbeyond)
    omega

/-- A text whose small letters come before the letter g is an ASCII text. -/
theorem ascii_of_lowercase {s : String} (h : ∀ d ∈ (lowercase s).toList, d.toNat ≤ lastPlain.toNat) :
    ∀ c ∈ s.toList, c.toNat < 128 := by
  have hfrom : ∀ cs before, (∀ d ∈ lowerFrom before cs, d.toNat ≤ lastPlain.toNat) →
      ∀ c ∈ cs, c.toNat < 128 := by
    intro cs
    induction cs with
    | nil => exact fun _ _ c hc => nomatch hc
    | cons c cs ih =>
        intro before hall
        obtain ⟨hhere, hrest⟩ := List.forall_mem_append.mp hall
        exact List.forall_mem_cons.mpr ⟨ascii_of_lowerAt hhere, ih _ hrest⟩
  rw [lowercase, String.toList_ofList] at h
  exact hfrom s.toList [] h

theorem toList_toLower (s : String) : s.toLower.toList = s.toList.map Char.toLower :=
  String.toList_map

theorem toLower_eq_iff {s t : String} :
    s.toLower = t.toLower ↔ s.toList.map Char.toLower = t.toList.map Char.toLower := by
  rw [← String.toList_inj, toList_toLower, toList_toLower]

theorem toLower_of_beyond {c : Char} (h : 128 ≤ c.toNat) : c.toLower = c := by
  unfold Char.toLower
  rw [dif_neg]
  rintro ⟨-, hZ⟩
  have : c.toNat ≤ 0x5A := UInt32.le_iff_toNat_le.mp hZ
  omega

theorem ascii_of_toLower {c : Char} (h : c.toLower.toNat < 128) : c.toNat < 128 := by
  by_contra hbeyond
  rw [toLower_of_beyond (Nat.le_of_not_lt hbeyond)] at h
  exact hbeyond h

/-- On ASCII texts lower-casing is what it is on each letter. -/
theorem lowercase_eq_toLower {s : String} (h : ∀ c ∈ s.toList, c.toNat < 128) :
    lowercase s = s.toLower := by
  refine String.toList_inj.mp ?_
  rw [lowercase_ascii h, String.toList_ofList, toList_toLower]

/-- A text is the same in small letters as one whose letters all come before the letter g exactly if
it is so letter by letter, and letters beyond ASCII count as different. -/
theorem lowercase_eq_iff {s t : String} (ht : ∀ c ∈ t.toLower.toList, c.toNat ≤ lastPlain.toNat) :
    lowercase s = lowercase t ↔ s.toLower = t.toLower := by
  have hlast : lastPlain.toNat < 128 := by decide
  have hascii : ∀ s : String, (∀ c ∈ s.toLower.toList, c.toNat ≤ lastPlain.toNat) →
      ∀ c ∈ s.toList, c.toNat < 128 := by
    intro s hs c hc
    refine ascii_of_toLower (Nat.lt_of_le_of_lt (hs _ ?_) hlast)
    rw [toList_toLower]
    exact List.mem_map_of_mem hc
  have htlower := lowercase_eq_toLower (hascii t ht)
  constructor
  · intro h
    have hs : ∀ c ∈ s.toList, c.toNat < 128 := by
      refine ascii_of_lowercase fun d hd => ht d ?_
      rwa [h, htlower] at hd
    rw [← lowercase_eq_toLower hs, h, htlower]
  · intro h
    rw [lowercase_eq_toLower (hascii s (h ▸ ht)), h, htlower]

end TodoPromo.Text
