import TodoPromo.Proofs.Json.Spelling

/-! # Strings read back

Every text comes back from its written form, whatever characters it holds: the escapes of the
quote, the backslash and the controls are undone, and the bytes of all other characters pass
through (`stringRest_written`). Hence a written string spells its text, as a value
(`spells_writeString`) and as a key (`key_writeString`). -/

namespace TodoPromo

/-- The bytes of a text are those of its characters. -/
theorem Text.encode_eq_flatMap (s : String) :
    Text.encode s = s.toList.flatMap String.utf8EncodeChar := by
  have h : s.toByteArray = s.toList.utf8Encode := String.utf8Encode_toList.symm
  rw [Text.encode, String.toUTF8_eq_toByteArray, h, List.utf8Encode, List.toList_data_toByteArray]

namespace Json

/-- A byte that stands for itself inside a string. -/
def IsPlain (b : UInt8) : Prop := b ≠ 0x22 ∧ b ≠ 0x5C ∧ ¬ b < 0x20

theorem stringBytes_cons_plain {b : UInt8} (h : IsPlain b) (collected bs : Bytes) :
    stringBytes collected (b :: bs) = stringBytes (b :: collected) bs := by
  rw [stringBytes, if_neg h.1, if_neg h.2.1, if_neg h.2.2]

theorem stringBytes_append_plain {ws : Bytes} (h : ∀ b ∈ ws, IsPlain b) (collected bs : Bytes) :
    stringBytes collected (ws ++ bs) = stringBytes (ws.reverse ++ collected) bs := by
  induction ws generalizing collected with
  | nil => rfl
  | cons b ws ih =>
      rw [List.cons_append, stringBytes_cons_plain (h b (by simp)),
        ih (fun b' hb' => h b' (by simp [hb']))]
      simp

theorem stringBytes_escape {bs out rest : Bytes} (h : escape bs = .ok (out, rest))
    (collected : Bytes) :
    stringBytes collected (0x5C :: bs) = stringBytes (out.reverse ++ collected) rest := by
  rw [stringBytes, if_neg (by decide), if_pos rfl]
  split
  · rename_i c hc
    rw [h] at hc
    cases hc
  · rename_i out' rest' hc
    rw [h] at hc
    cases hc
    rfl

theorem stringBytes_quote (collected bs : Bytes) :
    stringBytes collected (0x22 :: bs) = .ok (collected.reverse, bs) := by
  rw [stringBytes, if_pos rfl]

/-! ### Characters -/

theorem utf8EncodeChar_ascii {c : Char} (h : c.toNat < 0x80) :
    String.utf8EncodeChar c = [UInt8.ofNat c.toNat] := by
  have h' : c.val.toNat ≤ 0x7F := by
    change c.toNat ≤ 0x7F
    omega
  unfold String.utf8EncodeChar
  rw [if_pos h']
  rfl

theorem isPlain_ofNat {n : Nat} (hlo : 0x80 ≤ n) (hhi : n < 0x100) : IsPlain (UInt8.ofNat n) := by
  have hn : (UInt8.ofNat n).toNat = n := by simpa using Nat.mod_eq_of_lt hhi
  refine ⟨?_, ?_, ?_⟩
  · intro e
    rw [e] at hn
    simp at hn
    omega
  · intro e
    rw [e] at hn
    simp at hn
    omega
  · rw [UInt8.lt_iff_toNat_lt, hn]
    simp
    omega

/-- Beyond ASCII all bytes of a character have their highest bit set. -/
theorem isPlain_of_mem_utf8 {c : Char} (h : 0x80 ≤ c.toNat) :
    ∀ b ∈ String.utf8EncodeChar c, IsPlain b := by
  have h' : ¬ c.val.toNat ≤ 0x7F := by
    change ¬ c.toNat ≤ 0x7F
    omega
  intro b hb
  unfold String.utf8EncodeChar at hb
  simp only [h', if_false] at hb
  split at hb
  · simp only [List.mem_cons, List.not_mem_nil, or_false] at hb
    rcases hb with rfl | rfl <;> exact isPlain_ofNat (by omega) (by omega)
  split at hb
  · simp only [List.mem_cons, List.not_mem_nil, or_false] at hb
    rcases hb with rfl | rfl | rfl <;> exact isPlain_ofNat (by omega) (by omega)
  · simp only [List.mem_cons, List.not_mem_nil, or_false] at hb
    rcases hb with rfl | rfl | rfl | rfl <;> exact isPlain_ofNat (by omega) (by omega)

/-- The four digits in the escape of a control character. -/
theorem fourHex_control {n : Nat} (h : n < 0x20) (rest : Bytes) :
    fourHex (ascii ['0', '0', hexDigit (n / 16), hexDigit (n % 16)] ++ rest) = .ok (n, rest) := by
  have hx : ∀ n < 0x20,
      Text.hexByte? 0x30 0x30 = some 0 ∧
      Text.hexByte? (UInt8.ofNat (hexDigit (n / 16)).toNat)
        (UInt8.ofNat (hexDigit (n % 16)).toNat) = some (UInt8.ofNat n) ∧
      (UInt8.ofNat n).toNat = n := by decide
  obtain ⟨h0, h1, h2⟩ := hx n h
  simp [ascii, fourHex, h0, h1, h2]

theorem escape_control {n : Nat} (h : n < 0x20) (rest : Bytes) :
    escape (0x75 :: (ascii ['0', '0', hexDigit (n / 16), hexDigit (n % 16)] ++ rest)) =
      .ok ([UInt8.ofNat n], rest) := by
  have hx : ∀ n < 0x20, String.utf8EncodeChar (Char.ofNat n) = [UInt8.ofNat n] := by decide
  have hlo : ¬ (0xDC00 ≤ n ∧ n ≤ 0xDFFF) := by omega
  have hhi : ¬ (0xD800 ≤ n ∧ n ≤ 0xDBFF) := by omega
  simp [escape, unicodeEscape, fourHex_control h, hlo, hhi, hx n h]

/-- A character is written as a backslash and a letter, as a backslash and the four digits of a control,
or as it is, in bytes that stand for themselves. -/
theorem writeChar_cases (c : Char) :
    (∃ b v, b ≠ 0x75 ∧ shortEscape? b = some v ∧ writeChar c = [0x5C, b] ∧
      String.utf8EncodeChar c = [v]) ∨
    (c.toNat < 0x20 ∧ writeChar c =
      0x5C :: 0x75 :: ascii ['0', '0', hexDigit (c.toNat / 16), hexDigit (c.toNat % 16)]) ∨
    (writeChar c = String.utf8EncodeChar c ∧ ∀ b ∈ writeChar c, IsPlain b) := by
  unfold writeChar
  -- the two-byte escapes first, one for each character that has a letter
  split
  · subst c
    exact .inl ⟨_, _, by decide, rfl, rfl, rfl⟩
  split
  · subst c
    exact .inl ⟨_, _, by decide, rfl, rfl, rfl⟩
  split
  · subst c
    exact .inl ⟨_, _, by decide, rfl, rfl, rfl⟩
  split
  · subst c
    exact .inl ⟨_, _, by decide, rfl, rfl, rfl⟩
  split
  · subst c
    exact .inl ⟨_, _, by decide, rfl, rfl, rfl⟩
  split
  · subst c
    exact .inl ⟨_, _, by decide, rfl, rfl, rfl⟩
  split
  · subst c
    exact .inl ⟨_, _, by decide, rfl, rfl, rfl⟩
  split
  · rename_i hc
    exact .inr (.inl ⟨hc, rfl⟩)
  · rename_i hquote hback _ _ _ _ _ hc
    refine .inr (.inr ⟨rfl, ?_⟩)
    by_cases ha : c.toNat < 0x80
    · rw [utf8EncodeChar_ascii ha]
      intro b hb
      rw [List.mem_singleton.mp hb]
      have hn : (UInt8.ofNat c.toNat).toNat = c.toNat := by
        simpa using Nat.mod_eq_of_lt (show c.toNat < 256 by omega)
      refine ⟨fun e => hquote ?_, fun e => hback ?_, ?_⟩
      · rw [e] at hn
        exact Char.toNat_inj.mp hn.symm
      · rw [e] at hn
        exact Char.toNat_inj.mp hn.symm
      · rw [UInt8.lt_iff_toNat_lt, hn]
        exact hc
    · exact isPlain_of_mem_utf8 (by omega)

/-- A written character adds its bytes to what was collected. -/
theorem stringBytes_writeChar (c : Char) (collected bs : Bytes) :
    stringBytes collected (writeChar c ++ bs) =
      stringBytes ((String.utf8EncodeChar c).reverse ++ collected) bs := by
  obtain ⟨b, v, hb, hv, hw, hc⟩ | ⟨hc, hw⟩ | ⟨hw, hplain⟩ := writeChar_cases c
  · have hescape : escape (b :: bs) = .ok ([v], bs) := by
      rw [escape, if_neg hb, hv]
    rw [hw, hc]
    exact stringBytes_escape hescape collected
  · rw [hw, utf8EncodeChar_ascii (by omega)]
    exact stringBytes_escape (escape_control hc bs) collected
  · rw [stringBytes_append_plain hplain, hw]

theorem stringBytes_written (cs : List Char) (collected rest : Bytes) :
    stringBytes collected (cs.flatMap writeChar ++ 0x22 :: rest) =
      .ok (collected.reverse ++ cs.flatMap String.utf8EncodeChar, rest) := by
  induction cs generalizing collected with
  | nil => simp [stringBytes_quote]
  | cons c cs ih =>
      rw [List.flatMap_cons, List.append_assoc, stringBytes_writeChar, ih]
      simp

/-! ### Whole strings -/

/-- Behind its opening quote a written string reads back. -/
theorem stringRest_written (s : String) (rest : Bytes) :
    stringRest (s.toList.flatMap writeChar ++ 0x22 :: rest) = .ok (s, rest) := by
  have h := stringBytes_written s.toList [] rest
  rw [List.reverse_nil, List.nil_append, ← Text.encode_eq_flatMap] at h
  simp [stringRest, h]

theorem writeString_append (s : String) (rest : Bytes) :
    writeString s ++ rest = 0x22 :: (s.toList.flatMap writeChar ++ 0x22 :: rest) := by
  simp [writeString]

theorem startsValue_writeString (s : String) : StartsValue (writeString s) := by
  simp [writeString, StartsValue, isSpace]

theorem textFor_writeString (expected : String) (s : String) (rest : Bytes) :
    Reader.textFor expected (writeString s ++ rest) = .ok (s, rest) := by
  rw [writeString_append, Reader.textFor, Reader.value_cons rfl rfl]
  simp [Reader.step, stringRest_written]

theorem spells_writeString (s : String) : Spells Reader.text (writeString s) (some s) :=
  ⟨startsValue_writeString s, fun rest _ => textFor_writeString _ s rest⟩

theorem key_writeString (s : String) (rest : Bytes) :
    Reader.key (writeString s ++ rest) = .ok (s, rest) := by
  rw [writeString_append]
  simp [Reader.key, Reader.step, stringRest_written]

/-! ### The two words -/

theorem spells_writeBool (b : Bool) : Spells Reader.boolean (writeBool b) (some b) := by
  cases b with
  | false => exact ⟨⟨rfl, by decide⟩, fun rest _ => rfl⟩
  | true => exact ⟨⟨rfl, by decide⟩, fun rest _ => rfl⟩

end Json
end TodoPromo
