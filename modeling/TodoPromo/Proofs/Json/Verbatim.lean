import TodoPromo.Proofs.Json.Records

/-! # Values that are left as they stand

A value of any kind can be kept as its text (`Verbatim`). So the text of an object can be read without
knowing what it holds, as a table of its members; for a record that was written these are the fields that
are not left out, each with its written value (`decode_verbatim`). -/

namespace TodoPromo.Json

/-- The text of a value. -/
structure Verbatim where
  text : Bytes
  deriving DecidableEq

/-- A value of any kind, as it stands. -/
def Reader.verbatim : Reader Verbatim :=
  step fun bs =>
    let bs := skipSpace bs
    match skipValue bs with
    | .ok rest => .ok (⟨bs.take (bs.length - rest.length)⟩, rest)
    | .error c => .error c

instance : Coded Verbatim := ⟨Reader.verbatim, Verbatim.text⟩

/-! ### Skipping what was written -/

/-- The text is one value without parts, whatever delimiter follows. -/
structure Skipped (w : Bytes) : Prop where
  starts : StartsValue w
  skip : ∀ rest, Delimited rest → skipScalar (w ++ rest) = .ok (none, rest)

theorem Skipped.spells {w : Bytes} (h : Skipped w) :
    Spells (Coded.read : Reader Verbatim) w (some ⟨w⟩) := by
  refine ⟨h.starts, fun rest hrest => ?_⟩
  obtain ⟨b, bs, rfl, hspace, -⟩ := h.starts.exists_cons
  have hskip : skipValue (b :: bs ++ rest) = .ok rest := by
    unfold skipValue skipOpen
    rw [h.skip rest hrest]
    rfl
  have htake : (b :: bs ++ rest).take ((b :: bs ++ rest).length - rest.length) = b :: bs := by
    rw [List.length_append, Nat.add_sub_cancel, List.take_left' rfl]
  change Reader.verbatim (b :: bs ++ rest) = .ok (⟨b :: bs⟩, rest)
  unfold Reader.verbatim Reader.step
  have hfront : skipSpace (b :: bs ++ rest) = b :: bs ++ rest := skipSpace_cons hspace _
  simp only [hfront, hskip, htake]

theorem skipString_plain {b : UInt8} (h : IsPlain b) (bs : Bytes) :
    skipString (b :: bs) = skipString bs := by
  obtain ⟨hquote, hback, hcontrol⟩ := h
  rw [skipString.eq_5 _ _ (fun hb => hquote hb) (fun _ _ _ _ _ hb _ => hback hb)
    (fun _ _ hb _ => hback hb), if_neg hback, if_neg hcontrol]

theorem skipString_append_plain {ws : Bytes} (h : ∀ b ∈ ws, IsPlain b) (bs : Bytes) :
    skipString (ws ++ bs) = skipString bs := by
  induction ws with
  | nil => rfl
  | cons b ws ih =>
      rw [List.cons_append, skipString_plain (h b (by simp)), ih fun b' hb' => h b' (by simp [hb'])]

theorem skipString_writeChar (c : Char) (bs : Bytes) :
    skipString (writeChar c ++ bs) = skipString bs := by
  obtain ⟨b, v, hb, hv, hw, -⟩ | ⟨hc, hw⟩ | ⟨-, hplain⟩ := writeChar_cases c
  · have hskip : skipString (0x5C :: b :: bs) = skipString bs := by
      rw [skipString.eq_4 _ _ fun _ _ _ _ _ hb' _ => hb hb', if_neg hb, hv]
    rw [hw]
    exact hskip
  · have hfour := fourHex_control hc []
    rw [hw]
    simp only [ascii, List.map, List.cons_append, List.nil_append, List.append_nil] at hfour ⊢
    rw [skipString, hfour]
  · exact skipString_append_plain hplain bs

theorem skipString_written (cs : List Char) (rest : Bytes) :
    skipString (cs.flatMap writeChar ++ 0x22 :: rest) = .ok rest := by
  induction cs with
  | nil => rfl
  | cons c cs ih => rw [List.flatMap_cons, List.append_assoc, skipString_writeChar, ih]

theorem skipped_writeString (s : String) : Skipped (writeString s) := by
  refine ⟨startsValue_writeString s, fun rest _ => ?_⟩
  have hstart : skipScalar (0x22 :: (s.toList.flatMap writeChar ++ 0x22 :: rest)) =
      (none, ·) <$> skipString (s.toList.flatMap writeChar ++ 0x22 :: rest) := rfl
  rw [writeString_append, hstart, skipString_written]
  rfl

theorem skipped_writeBool (b : Bool) : Skipped (writeBool b) := by
  cases b with
  | false => exact ⟨⟨rfl, by decide⟩, fun rest _ => rfl⟩
  | true => exact ⟨⟨rfl, by decide⟩, fun rest _ => rfl⟩

theorem skipped_writeNull : Skipped writeNull := ⟨⟨rfl, by decide⟩, fun _ _ => rfl⟩

/-! ### Numbers -/

theorem skipDigits_append {ds rest : Bytes} (hne : ds ≠ []) (hd : ∀ b ∈ ds, isDigit b = true)
    (hrest : NoDigit rest) : skipDigits (ds ++ rest) = .ok rest := by
  have hempty : ds.isEmpty = false := by simpa using hne
  simp [skipDigits, spanDigits_append hd hrest, hempty]

theorem skipNumber_minus {bs : Bytes} (h : ∀ bs', bs ≠ 0x2D :: bs') :
    skipNumber (0x2D :: bs) = skipNumber bs := by
  conv_rhs => unfold skipNumber
  split
  · exact absurd rfl (h _)
  · rfl

/-- Past the digits behind a point, if there is one. -/
def skipFraction : Bytes → Except Cause Bytes
  | 0x2E :: r => skipDigits r
  | r => pure r

theorem skipFraction_ne {bs : Bytes} (h : ∀ r, bs ≠ 0x2E :: r) : skipFraction bs = pure bs := by
  unfold skipFraction
  split
  · exact (h _ rfl).elim
  · rfl

/-- Past an exponent, if there is one. -/
def skipExponent : Bytes → Except Cause Bytes
  | b :: r =>
    if b = 0x65 ∨ b = 0x45 then
      skipDigits (match r with
        | 0x2B :: r => r
        | 0x2D :: r => r
        | r => r)
    else pure (b :: r)
  | [] => pure []

theorem skipExponent_numeral (n : Numeral) {rest : Bytes} (h : Delimited rest) :
    skipExponent (n.exponentText ++ rest) = .ok rest := by
  unfold Numeral.exponentText
  cases he : n.exponent with
  | none =>
      cases rest with
      | nil => rfl
      | cons b bs => rcases h with rfl | rfl | rfl <;> rfl
  | some p =>
      obtain ⟨negative, ds⟩ := p
      obtain ⟨hne, hds⟩ := n.exponent_digits _ he
      have hdigits := skipDigits_append hne hds h.noDigit
      cases negative with
      | false => exact hdigits
      | true => exact hdigits

theorem skipFraction_numeral (n : Numeral) {rest : Bytes} (h : Delimited rest) :
    skipFraction (n.fractionText ++ (n.exponentText ++ rest)) = .ok (n.exponentText ++ rest) := by
  unfold Numeral.fractionText
  by_cases hf : n.fraction = []
  · rw [if_pos hf, List.nil_append]
    unfold Numeral.exponentText
    cases n.exponent with
    | none =>
        cases rest with
        | nil => rfl
        | cons b bs => rcases h with rfl | rfl | rfl <;> rfl
    | some p => rfl
  · rw [if_neg hf]
    exact skipDigits_append hf n.fraction_digits (n.noDigit_exponentText h.noDigit)

/-- Behind whole digits without a needless zero a fraction is skipped, and then an exponent. -/
theorem skipNumber_whole (n : Numeral) (hzero : ∀ b bs, n.whole ≠ 0x30 :: b :: bs) {tail : Bytes}
    (h : NoDigit tail) : skipNumber (n.whole ++ tail) = skipFraction tail >>= skipExponent := by
  have hspan := spanDigits_append n.whole_digits h
  unfold skipNumber
  split
  · rename_i heq
    exact absurd heq (n.whole_append_ne_minus _ _)
  simp only [hspan]
  split
  · rename_i heq
    exact absurd heq n.whole_ne_nil
  · rename_i heq
    exact absurd heq (hzero _ _)
  · by_cases hpoint : ∃ r, tail = 0x2E :: r
    · obtain ⟨r, rfl⟩ := hpoint
      rfl
    · rw [skipFraction_ne fun r hr => hpoint ⟨r, hr⟩]
      split
      · exact (hpoint ⟨_, rfl⟩).elim
      · rfl

/-- A numeral without a needless zero in front is skipped to its end. -/
theorem skipNumber_numeral (n : Numeral) (hzero : ∀ b bs, n.whole ≠ 0x30 :: b :: bs) {rest : Bytes}
    (h : Delimited rest) : skipNumber (n.text ++ rest) = .ok rest := by
  have hunsigned : skipNumber (n.unsignedText ++ rest) = .ok rest := by
    rw [Numeral.unsignedText, List.append_assoc, List.append_assoc,
      skipNumber_whole n hzero (n.noDigit_fractionText (n.noDigit_exponentText h.noDigit)),
      skipFraction_numeral n h]
    exact skipExponent_numeral n h
  unfold Numeral.text
  cases n.negative with
  | false => exact hunsigned
  | true =>
      have hminus : ∀ bs, n.unsignedText ++ rest ≠ 0x2D :: bs := by
        intro bs
        rw [Numeral.unsignedText, List.append_assoc]
        exact n.whole_append_ne_minus _ _
      exact (skipNumber_minus hminus).trans hunsigned

/-- A minus or a digit begins a number. -/
theorem skipScalar_number {b : UInt8} (hstart : (b == 0x2D || isDigit b) = true)
    (hspace : isSpace b = false) (bs : Bytes) :
    skipScalar (b :: bs) = (none, ·) <$> skipNumber (b :: bs) := by
  unfold skipScalar
  rw [skipSpace_cons hspace]
  split
  case h_8 heq =>
    obtain ⟨rfl, rfl⟩ := List.cons.inj heq
    exact if_pos (by simpa using hstart)
  all_goals
    rename_i heq
    cases heq
  all_goals cases hstart

theorem skipped_numeral (n : Numeral) (hzero : ∀ b bs, n.whole ≠ 0x30 :: b :: bs) : Skipped n.text := by
  obtain ⟨b, bs, htext, hstart, hspace, hne⟩ := n.starts_text
  refine ⟨by rw [htext]; exact ⟨hspace, hne⟩, fun rest h => ?_⟩
  have hskip := skipNumber_numeral n hzero h
  rw [htext] at hskip ⊢
  rw [List.cons_append] at hskip ⊢
  rw [skipScalar_number hstart hspace, hskip]
  rfl

theorem skipped_writeSingle (x : Single) : Skipped (writeSingle x) := by
  unfold writeSingle
  cases hfinite : x.isFinite with
  | false => exact skipped_writeNull
  | true =>
      obtain ⟨n, hn, hbelow⟩ :=
        exists_numeral_writeScaled numberLayout .single x.negative x.magnitude
      rw [if_pos rfl, ← hn]
      exact skipped_numeral n (hbelow 39 (value_around_magnitude hfinite)).no_zero

/-- The text of every field's value is one value without parts. -/
theorem Kind.skipped (k : Kind) (v : k.Value) : Skipped (k.write v) := by
  cases k with
  | text => exact skipped_writeString v
  | flag => exact skipped_writeBool v
  | single => exact skipped_writeSingle v
  | instant =>
      have hskipped := skipped_writeString (String.ofList (Time.Instant.write v))
      rwa [← writeInstant_eq] at hskipped

/-! ### Objects of values that stand as they are -/

theorem spells_verbatims {t : Table String Verbatim} (h : ∀ e ∈ t.entries, Skipped e.2.text) :
    Spells (Coded.read : Reader (Table String Verbatim)) (encode t) (some t) :=
  spells_table (fun e _ => spellsKey_writeString e.1) fun e he => (h e he).spells

/-- The texts of the fields that are there, under their names. -/
def Draft.texts : (fs : List Field) → Draft fs → List (String × Verbatim)
  | [], _ => []
  | _ :: rest, (none, d) => texts rest d
  | f :: rest, (some v, d) => (f.name, ⟨f.kind.write v⟩) :: texts rest d

namespace Draft

theorem map_texts (fs : List Field) (d : Draft fs) :
    (texts fs d).map (memberOf writeString Verbatim.text) = members fs d := by
  induction fs with
  | nil => rfl
  | cons f rest ih =>
      obtain ⟨v?, d, rfl⟩ := d.exists_cons
      cases v? with
      | none => exact ih d
      | some v => exact congrArg _ (ih d)

theorem skipped_texts (fs : List Field) (d : Draft fs) : ∀ e ∈ texts fs d, Skipped e.2.text := by
  induction fs with
  | nil => exact fun e he => nomatch he
  | cons f rest ih =>
      obtain ⟨v?, d, rfl⟩ := d.exists_cons
      cases v? with
      | none => exact ih d
      | some v => exact List.forall_mem_cons.mpr ⟨f.kind.skipped v, ih d⟩

end Draft

/-- An object with the texts of the fields of a record that are not left out is what the text of the record
is read as by those who do not know the record. -/
theorem decode_verbatim {α : Type} [r : Record α] (a : α) {t : Table String Verbatim}
    (h : t.entries = (Row.draft r.shape.fields (r.toRow a)).texts r.shape.fields) :
    decode (encode a) = .ok t ∧ encode t = encode a := by
  have hencode : encode t = encode a := by
    change writeObject (t.entries.map (memberOf writeString Verbatim.text)) = Row.write r.shape (r.toRow a)
    rw [h, Draft.map_texts, Row.members_draft]
    rfl
  refine ⟨?_, hencode⟩
  have hskipped : ∀ e ∈ t.entries, Skipped e.2.text := by
    rw [h]
    exact Draft.skipped_texts _ _
  rw [← hencode]
  exact decode_of_spells (spells_verbatims hskipped)

end TodoPromo.Json
