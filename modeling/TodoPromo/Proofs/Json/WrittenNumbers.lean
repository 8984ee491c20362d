import TodoPromo.Proofs.Decimal.Leading
import TodoPromo.Proofs.Json.NumberRange
import TodoPromo.Proofs.Text.Ascii

/-! # Written numbers are numerals

The layout of decimals only ever produces numerals (`exists_numeral_layout`), so written numbers are
read to their end. A byte comes back as it was (`spells_writeByte`). A number of 32 bits comes back
as some number if it is finite, and is refused if it is not (`exists_spells_writeSingle`). -/

namespace TodoPromo.Json

/-! ### Digits in bytes -/

theorem ascii_append (cs ds : List Char) : ascii (cs ++ ds) = ascii cs ++ ascii ds := by
  simp [ascii]

theorem ascii_cons (c : Char) (cs : List Char) :
    ascii (c :: cs) = UInt8.ofNat c.toNat :: ascii cs := rfl

theorem isDigit_of_isDigit {c : Char} (h : c.isDigit = true) :
    isDigit (UInt8.ofNat c.toNat) = true := by
  have hc := Text.toNat_of_isDigit h
  have hn : (UInt8.ofNat c.toNat).toNat = c.toNat := by
    simpa using Nat.mod_eq_of_lt (show c.toNat < 256 by omega)
  simp only [isDigit, Bool.and_eq_true, decide_eq_true_eq, UInt8.le_iff_toNat_le, hn]
  exact hc

theorem isDigit_of_mem_ascii {cs : List Char} (h : ∀ c ∈ cs, c.isDigit = true) :
    ∀ b ∈ ascii cs, isDigit b = true := by
  intro b hb
  obtain ⟨c, hc, rfl⟩ := List.mem_map.mp hb
  exact isDigit_of_isDigit (h c hc)

theorem isDigit_of_mem_digitsOf {n : Nat} : ∀ c ∈ Decimal.digitsOf n, c.isDigit = true :=
  fun _ hc => Nat.isDigit_of_mem_toDigits (by decide) (by decide) hc

theorem isDigit_of_mem_zeros {n : Nat} : ∀ c ∈ Decimal.zeros n, c.isDigit = true := by
  intro c hc
  rw [List.eq_of_mem_replicate hc]
  rfl

theorem ascii_ne_nil {cs : List Char} (h : cs ≠ []) : ascii cs ≠ [] := by
  simpa [ascii] using h

/-! ### The layout of decimals -/

theorem digitsOf_ne_zero_cons {n : Nat} (h : 0 < n) : ∀ cs, Decimal.digitsOf n ≠ '0' :: cs := by
  induction n using Nat.strongRecOn with
  | ind n ih =>
      intro cs hcs
      unfold Decimal.digitsOf at hcs
      rcases Nat.lt_or_ge n 10 with hlt | hge
      · rw [Nat.toDigits_of_lt_base hlt] at hcs
        have hdigit : ∀ m < 10, 0 < m → m.digitChar ≠ '0' := by decide
        exact hdigit n hlt h (List.cons.inj hcs).1
      · rw [Nat.toDigits_of_base_le (by decide) hge] at hcs
        obtain ⟨c, rest, hfront⟩ := List.exists_cons_of_ne_nil (Nat.toDigits_ne_nil (n := n / 10) (b := 10))
        rw [hfront] at hcs
        have hc : c = '0' := (List.cons.inj hcs).1
        exact ih (n / 10) (by omega) (by omega) rest (by rw [← hc]; exact hfront)

theorem digit_byte {c : Char} (h : c.isDigit = true) :
    (UInt8.ofNat c.toNat - 0x30).toNat = c.toNat - 48 := by
  have hc := Text.toNat_of_isDigit h
  have hall : ∀ m ≤ 57, 48 ≤ m → (UInt8.ofNat m - 0x30).toNat = m - 48 := by decide
  exact hall c.toNat hc.2 hc.1

theorem digitsValue_ascii_digitsOf (n : Nat) : digitsValue (ascii (Decimal.digitsOf n)) = n := by
  have hfold : ∀ (ds : List Char) (init : Nat), (∀ c ∈ ds, c.isDigit = true) →
      (ascii ds).foldl (fun n d => 10 * n + (d - 0x30).toNat) init = Nat.ofDigitChars 10 ds init := by
    intro ds
    induction ds with
    | nil => exact fun _ _ => rfl
    | cons d ds ih =>
        intro init h
        rw [ascii_cons, List.foldl_cons, digit_byte (h d (by simp)), ih _ fun c hc => h c (by simp [hc])]
        rfl
  unfold digitsValue
  rw [hfold _ 0 isDigit_of_mem_digitsOf]
  exact Nat.ofDigitChars_ten_toDigits

theorem zero_of_ascii {cs : List Char} {bs : Bytes} (hcs : ∀ c ∈ cs, c.isDigit = true)
    (h : ascii cs = 0x30 :: bs) : ∃ ds, cs = '0' :: ds := by
  cases cs with
  | nil => cases h
  | cons c ds =>
      have hc := Text.toNat_of_isDigit (hcs c (by simp))
      have hn : c.toNat % 256 = 48 := by simpa using congrArg UInt8.toNat (List.cons.inj h).1
      have hzero : c = '0' := Char.toNat_inj.mp (show c.toNat = 48 by omega)
      exact ⟨ds, by rw [hzero]⟩

namespace Numeral

/-- Digits on both sides of a point. -/
def pointed (whole fraction : List Char) (hw : whole ≠ []) (hwd : ∀ c ∈ whole, c.isDigit = true)
    (hfd : ∀ c ∈ fraction, c.isDigit = true) : Numeral where
  negative := false
  whole := ascii whole
  fraction := ascii fraction
  exponent := none
  whole_digits := isDigit_of_mem_ascii hwd
  whole_ne_nil := ascii_ne_nil hw
  fraction_digits := isDigit_of_mem_ascii hfd
  exponent_digits := by simp

/-- One digit, more of them behind a point if there are any, and an exponent. -/
def scientific (d : Char) (fraction : List Char) (e : Int) (hd : d.isDigit = true)
    (hfd : ∀ c ∈ fraction, c.isDigit = true) : Numeral where
  negative := false
  whole := ascii [d]
  fraction := ascii fraction
  exponent := some (decide (e < 0), ascii (Decimal.digitsOf e.natAbs))
  whole_digits := isDigit_of_mem_ascii (by simpa using hd)
  whole_ne_nil := by simp [ascii]
  fraction_digits := isDigit_of_mem_ascii hfd
  exponent_digits := by
    intro p hp
    cases hp
    exact ⟨ascii_ne_nil Nat.toDigits_ne_nil, isDigit_of_mem_ascii isDigit_of_mem_digitsOf⟩

theorem unsignedText_pointed {whole fraction : List Char} (hf : fraction ≠ []) (hw hwd hfd) :
    (pointed whole fraction hw hwd hfd).unsignedText = ascii (whole ++ '.' :: fraction) := by
  have hf' := ascii_ne_nil hf
  simp [pointed, unsignedText, fractionText, exponentText, hf', ascii_append, ascii_cons]

theorem exponentText_scientific (d : Char) (fraction : List Char) (e : Int) (hd hfd) :
    (scientific d fraction e hd hfd).exponentText =
      ascii ('e' :: Decimal.exponentText e) := by
  by_cases he : e < 0 <;>
    simp [scientific, exponentText, Decimal.exponentText, he, ascii_cons]

theorem unsignedText_scientific (d : Char) (fraction : List Char) (e : Int) (hd hfd) :
    (scientific d fraction e hd hfd).unsignedText = ascii (match d :: fraction with
      | [d] => d :: 'e' :: Decimal.exponentText e
      | d :: rest => d :: '.' :: rest ++ 'e' :: Decimal.exponentText e
      | [] => []) := by
  rw [unsignedText, exponentText_scientific]
  cases fraction with
  | nil => rfl
  | cons c cs =>
      simp [scientific, fractionText, ascii_append, ascii_cons]
      rfl

theorem exponentValue_scientific (d : Char) (fraction : List Char) (e : Int) (hd hfd) :
    (scientific d fraction e hd hfd).exponentValue = e := by
  unfold exponentValue scientific
  simp only [digitsValue_ascii_digitsOf]
  by_cases he : e < 0
  · simp only [he, decide_true, if_true]
    omega
  · simp only [he, decide_false, Bool.false_eq_true, if_false]
    omega

/-- No needless zero stands in front of the numeral, and its digits stand below a power of ten. -/
structure Below (n : Numeral) (power : Int) : Prop where
  no_zero : ∀ b bs, n.whole ≠ 0x30 :: b :: bs
  exponent_le : n.exponentValue + n.whole.length ≤ power

theorem below_pointed {whole fraction : List Char} {hw hwd hfd} {power : Int}
    (hzero : ∀ c cs, whole ≠ '0' :: c :: cs) (h : whole.length ≤ power) :
    (pointed whole fraction hw hwd hfd).Below power where
  no_zero b bs hwhole := by
    change ascii whole = _ at hwhole
    obtain ⟨ds, rfl⟩ := zero_of_ascii hwd hwhole
    cases ds with
    | nil => cases (List.cons.inj hwhole).2
    | cons c cs => exact hzero c cs rfl
  exponent_le := by
    change (0 : Int) + (ascii whole).length ≤ power
    rw [ascii, List.length_map]
    omega

theorem below_scientific {d : Char} {fraction : List Char} {e : Int} {hd hfd} {power : Int}
    (h : e + 1 ≤ power) : (scientific d fraction e hd hfd).Below power where
  no_zero b bs hwhole := by
    cases (List.cons.inj hwhole).2
  exponent_le := by
    rw [exponentValue_scientific]
    exact h

theorem Below.mono {n : Numeral} {power power' : Int} (h : n.Below power) (hle : power ≤ power') :
    n.Below power' where
  no_zero := h.no_zero
  exponent_le := h.exponent_le.trans hle

/-- Digits that follow a zero and a point, behind zeros. -/
theorem exists_fractional {ds : List Char} (hds : ∀ c ∈ ds, c.isDigit = true) (hne : ds ≠ []) (k : Nat) :
    ∃ n : Numeral, n.unsignedText = ascii ('0' :: '.' :: Decimal.zeros k ++ ds) ∧ n.Below 1 := by
  have hfraction : ∀ c ∈ Decimal.zeros k ++ ds, c.isDigit = true :=
    List.forall_mem_append.mpr ⟨isDigit_of_mem_zeros, hds⟩
  have hfraction_ne : Decimal.zeros k ++ ds ≠ [] := List.append_ne_nil_of_right_ne_nil _ hne
  exact ⟨pointed ['0'] _ (by simp) (by simp) hfraction, unsignedText_pointed hfraction_ne _ _ _,
    below_pointed (by simp) (by simp)⟩

/-- Digits that are filled with zeros up to the point, and cut there. -/
theorem exists_positional {ds : List Char} (hds : ∀ c ∈ ds, c.isDigit = true) (hne : ds ≠ []) (w : Nat) :
    let padded := ds ++ Decimal.zeros (w + 1 - ds.length)
    let fraction := padded.drop (w + 1)
    ∃ n : Numeral, n.unsignedText =
        ascii (padded.take (w + 1) ++ '.' :: (if fraction.isEmpty then ['0'] else fraction)) ∧
      ((∀ cs, ds ≠ '0' :: cs) → n.Below (w + 1)) := by
  intro padded fraction
  have hpadded : ∀ c ∈ padded, c.isDigit = true :=
    List.forall_mem_append.mpr ⟨hds, isDigit_of_mem_zeros⟩
  have hwhole : ∀ c ∈ padded.take (w + 1), c.isDigit = true :=
    fun c hc => hpadded c (List.mem_of_mem_take hc)
  have hwhole_ne : padded.take (w + 1) ≠ [] := by
    simp [List.take_eq_nil_iff, padded, hne]
  have hfraction : ∀ c ∈ if fraction.isEmpty then ['0'] else fraction, c.isDigit = true := by
    split
    · exact List.forall_mem_singleton.mpr rfl
    · exact fun c hc => hpadded c (List.mem_of_mem_drop hc)
  have hfraction_ne : (if fraction.isEmpty then ['0'] else fraction) ≠ [] := by
    split
    · simp
    · rename_i h
      simpa using h
  refine ⟨pointed _ _ hwhole_ne hwhole hfraction, unsignedText_pointed hfraction_ne _ _ _,
    fun hzero => below_pointed ?_ ?_⟩
  · intro c cs hfirst
    obtain ⟨d, rest, rfl⟩ := List.exists_cons_of_ne_nil hne
    exact hzero rest (by rw [(List.cons.inj hfirst).1])
  · have hlength : (padded.take (w + 1)).length ≤ w + 1 := List.length_take_le _ _
    omega

end Numeral

/-- Whatever the layout writes is a numeral without a sign. For a decimal other than zero it is one
without a needless zero in front, as far up as the decimal or the layout reaches. -/
theorem exists_numeral_layout (l : Decimal.Layout) (s : Decimal.Scientific) :
    ∃ n : Numeral, n.unsignedText = ascii (l.write s) ∧
      (0 < s.digits → n.Below (max 0 (max l.greatest s.lead) + 1)) := by
  have hds := isDigit_of_mem_digitsOf (n := s.digits)
  have hne : Decimal.digitsOf s.digits ≠ [] := Nat.toDigits_ne_nil
  have hzero := digitsOf_ne_zero_cons (n := s.digits)
  unfold Decimal.Layout.write Decimal.Scientific.lead
  dsimp only
  generalize Decimal.digitsOf s.digits = ds at *
  generalize s.exponent + ((ds.length - 1 : Nat) : Int) = lead
  split
  · rename_i hplain
    simp only [Bool.and_eq_true, decide_eq_true_eq] at hplain
    split
    · obtain ⟨n, htext, hbelow⟩ := Numeral.exists_fractional hds hne (-lead - 1).toNat
      exact ⟨n, htext, fun _ => hbelow.mono (by omega)⟩
    · obtain ⟨n, htext, hbelow⟩ := Numeral.exists_positional hds hne lead.toNat
      exact ⟨n, htext, fun hpos => (hbelow (hzero hpos)).mono (by omega)⟩
  · obtain ⟨d, rest, rfl⟩ := List.exists_cons_of_ne_nil hne
    obtain ⟨hd, hrest⟩ := List.forall_mem_cons.mp hds
    exact ⟨Numeral.scientific d rest lead hd hrest, Numeral.unsignedText_scientific d rest lead hd hrest,
      fun _ => Numeral.below_scientific (by omega)⟩

/-- A number with its sign is a numeral, as far up as the number or the layout reaches. -/
theorem exists_numeral_writeScaled (l : Decimal.Layout) (F : Binary.Format) (negative : Bool)
    (d : Binary.Scaled) : ∃ n : Numeral, n.text = ascii (l.writeScaled F negative d) ∧
      ∀ k : Nat, (Decimal.Interval.around F d).value < 10 ^ k →
        n.Below (max 0 (max l.greatest k) + 1) := by
  have hsize : ∃ n : Numeral, n.unsignedText =
        ascii (if d.mantissa = 0 then ['0', '.', '0'] else l.write (Decimal.shortest F d)) ∧
      ∀ k : Nat, (Decimal.Interval.around F d).value < 10 ^ k →
        n.Below (max 0 (max l.greatest k) + 1) := by
    by_cases hzero : d.mantissa = 0
    · rw [if_pos hzero]
      refine ⟨Numeral.pointed ['0'] ['0'] (by simp) (by simp) (by simp),
        Numeral.unsignedText_pointed (by simp) _ _ _, fun k _ => Numeral.below_pointed (by simp) ?_⟩
      change (1 : Int) ≤ _
      omega
    · rw [if_neg hzero]
      obtain ⟨n, htext, hbelow⟩ := exists_numeral_layout l (Decimal.shortest F d)
      refine ⟨n, htext, fun k hk => ?_⟩
      obtain ⟨hdigits, hlead⟩ := Decimal.shortest_leads F (Nat.pos_of_ne_zero hzero) hk
      exact (hbelow hdigits).mono (by omega)
  obtain ⟨n, hn, hbelow⟩ := hsize
  refine ⟨{ n with negative }, ?_, fun k hk => ⟨(hbelow k hk).no_zero, (hbelow k hk).exponent_le⟩⟩
  have hu : ({ n with negative } : Numeral).unsignedText = n.unsignedText := rfl
  rw [Numeral.text, hu, hn]
  cases negative <;> rfl

/-! ### Bytes and numbers of 32 bits -/

/-- The numeral of a small number. -/
def byteNumeral (n : Nat) : Numeral :=
  Numeral.pointed (Nat.toDigits 10 n) [] Nat.toDigits_ne_nil
    (fun _ hc => Nat.isDigit_of_mem_toDigits (by decide) (by decide) hc) (by simp)

theorem value?_byteNumeral : ∀ n < 256, (byteNumeral n).value? = some (.integer n) := by
  decide +kernel

theorem spells_writeByte (b : UInt8) : Spells Reader.byte (writeInt b.toNat) (some b) := by
  have htext : writeInt b.toNat = (byteNumeral b.toNat).text := by
    change ascii (Nat.repr b.toNat).toList = _
    rw [Nat.toList_repr]
    simp [byteNumeral, Numeral.pointed, Numeral.text, Numeral.unsignedText,
      Numeral.fractionText, Numeral.exponentText, ascii]
  have hlt : b.toNat < 256 := b.toNat_lt
  have hnumber := spells_numeral "u8" (byteNumeral b.toNat)
  rw [← htext, value?_byteNumeral _ hlt] at hnumber
  refine hnumber.bind (g := fun _ => some b) fun a ha rest => ?_
  cases ha
  have hwithin : Reader.integerWithin "u8" 0 255 (.integer b.toNat) rest =
      .ok ((b.toNat : Int), rest) := by
    rw [Reader.integerWithin, if_pos (by omega)]
    rfl
  change (Reader.integerWithin "u8" 0 255 (.integer b.toNat) >>= _) rest = _
  rw [Reader.bind_ok hwithin, Int.toNat_natCast, UInt8.ofNat_toNat]
  rfl

/-- What is written for an infinity or a not-a-number is no number. -/
theorem spells_writeNull : Spells Reader.single writeNull none :=
  ⟨⟨rfl, by decide⟩, fun _ _ => ⟨_, rfl⟩⟩

/-- A finite number of 32 bits has at most 39 digits before the point. -/
theorem value_around_magnitude {x : Single} (h : x.isFinite = true) :
    (Decimal.Interval.around .single x.magnitude).value < 10 ^ 39 := by
  have hbits : x.magnitudeBits < 0x7F800000 := of_decide_eq_true h
  have hsize : x.magnitude.mantissa < 2 ^ 24 ∧ x.magnitude.exponent ≤ 104 := by
    unfold Single.magnitude
    dsimp only
    split
    · dsimp only
      omega
    · dsimp only
      omega
  have hunit : (Binary.divPow 1 1 (2 - x.magnitude.exponent)).1 ≤ 2 ^ 102 := by
    unfold Binary.divPow
    split
    · exact Nat.one_le_two_pow
    · rw [Nat.one_mul]
      exact Nat.pow_le_pow_right (by decide) (by omega)
  calc 4 * x.magnitude.mantissa * (Binary.divPow 1 1 (2 - x.magnitude.exponent)).1
      ≤ 4 * 2 ^ 24 * 2 ^ 102 := Nat.mul_le_mul (by omega) hunit
    _ < 10 ^ 39 := by decide

/-- The number of 32 bits that a number is read as. -/
def Number.toSingle : Number → Single
  | .integer n => .ofInt n
  | .float negative size => .ofScaled negative size

theorem spells_single {n : Numeral} {v : Number} (h : n.value? = some v) :
    Spells Reader.single n.text (some v.toSingle) := by
  have hnumber := spells_numeral "f32" n
  rw [h] at hnumber
  refine hnumber.bind (g := fun v => some v.toSingle) fun a _ rest => ?_
  cases a with
  | integer i => rfl
  | float negative size => rfl

/-- A written number of 32 bits is read to its end, and is a number if it is finite. -/
theorem exists_spells_writeSingle (x : Single) :
    ∃ o, Spells Reader.single (writeSingle x) o ∧ o.isSome = x.isFinite := by
  unfold writeSingle
  cases hfinite : x.isFinite with
  | false => exact ⟨none, spells_writeNull, rfl⟩
  | true =>
      obtain ⟨n, hn, hbelow⟩ :=
        exists_numeral_writeScaled numberLayout .single x.negative x.magnitude
      have hb := hbelow 39 (value_around_magnitude hfinite)
      obtain ⟨v, hv⟩ := Numeral.value?_isSome hb.no_zero
        (Int.le_trans hb.exponent_le (by decide))
      rw [if_pos rfl, ← hn]
      exact ⟨_, spells_single hv, rfl⟩

end TodoPromo.Json
