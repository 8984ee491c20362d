import TodoPromo.Proofs.Json.Strings
import TodoPromo.Proofs.Text.SmallLetters
import TodoPromo.Text.Utf8

/-! # Percent-encoded texts

A text in which every byte is percent-encoded is read back as it was (`decode_percentEncoded`). Every text
has such a spelling (`exists_percentEncodes`), which consists of percent signs and hexadecimal digits,
whatever the text was, so nothing in it ends a segment or a path (`PercentEncodes.plain`). -/

namespace TodoPromo.Text

/-- A spelling of bytes: for each of them a percent sign and its two hexadecimal digits, in letters of
either case. -/
inductive PercentEncodes : List Char → Bytes → Prop where
  | nil : PercentEncodes [] []
  | cons {high low : Char} {b : UInt8} {cs : List Char} {bs : Bytes}
      (hhigh : high.toLower = Nat.digitChar (b.toNat / 16))
      (hlow : low.toLower = Nat.digitChar (b.toNat % 16)) (hrest : PercentEncodes cs bs) :
      PercentEncodes ('%' :: high :: low :: cs) (b :: bs)

theorem exists_percentEncodes (bs : Bytes) : ∃ cs, PercentEncodes cs bs := by
  have hsmall : ∀ n < 16, (Nat.digitChar n).toLower = Nat.digitChar n := by decide
  induction bs with
  | nil => exact ⟨[], .nil⟩
  | cons b bs ih =>
      obtain ⟨cs, hcs⟩ := ih
      have hb := b.toNat_lt
      exact ⟨_, .cons (hsmall _ (by omega)) (hsmall _ (by omega)) hcs⟩

/-! ### Hexadecimal digits -/

theorem hexDigit?_of_toLower {c : Char} {n : Nat} (hn : n < 16) (hc : c.toLower = Nat.digitChar n) :
    c.toNat < 128 ∧ hexDigit? (UInt8.ofNat c.toNat) = some (UInt8.ofNat n) := by
  have hdigits : ∀ n < 16, ∀ m < 128, (Char.ofNat m).toLower = Nat.digitChar n →
      hexDigit? (UInt8.ofNat m) = some (UInt8.ofNat n) := by
    decide +kernel
  have hascii : c.toNat < 128 := by
    by_contra hbeyond
    rw [toLower_of_beyond (Nat.le_of_not_lt hbeyond)] at hc
    have hdigit : ∀ n < 16, (Nat.digitChar n).toNat < 128 := by decide
    rw [hc] at hbeyond
    exact hbeyond (hdigit n hn)
  have hspec := hdigits n hn c.toNat hascii
  rw [Char.ofNat_toNat] at hspec
  exact ⟨hascii, hspec hc⟩

theorem hexByte?_digits {high low b : UInt8} (hhigh : hexDigit? high = some (UInt8.ofNat (b.toNat / 16)))
    (hlow : hexDigit? low = some (UInt8.ofNat (b.toNat % 16))) : hexByte? high low = some b := by
  have hb := b.toNat_lt
  have hvalue : UInt8.ofNat (b.toNat / 16) * 16 + UInt8.ofNat (b.toNat % 16) = b := by
    apply UInt8.toNat_inj.mp
    simp only [UInt8.toNat_add, UInt8.toNat_mul, UInt8.toNat_ofNat']
    have hsixteen : UInt8.toNat 16 = 16 := rfl
    rw [hsixteen]
    omega
  unfold hexByte?
  rw [hhigh, hlow]
  exact congrArg some hvalue

namespace PercentEncodes

variable {cs : List Char} {bs : Bytes}

/-- A spelling is ASCII, and has nothing in it at which a path is cut. -/
theorem plain (h : PercentEncodes cs bs) : ∀ c ∈ cs, c.toNat < 128 ∧ c ∉ ['/', '?', '#'] := by
  have hmarks : ∀ c ∈ ['/', '?', '#'], hexDigit? (UInt8.ofNat c.toNat) = none := by
    simp only [List.forall_mem_cons, List.not_mem_nil, false_imp_iff, implies_true, and_true]
    decide
  have hdigit : ∀ {c : Char} {n : Nat}, n < 16 → c.toLower = Nat.digitChar n →
      c.toNat < 128 ∧ c ∉ ['/', '?', '#'] := by
    intro c n hn hc
    obtain ⟨hascii, hvalue⟩ := hexDigit?_of_toLower hn hc
    refine ⟨hascii, fun hmark => ?_⟩
    rw [hmarks c hmark] at hvalue
    cases hvalue
  induction h with
  | nil =>
      intro c hc
      cases hc
  | @cons high low b cs bs hhigh hlow hrest ih =>
      have hb := b.toNat_lt
      simp only [List.forall_mem_cons]
      exact ⟨by decide, hdigit (by omega) hhigh, hdigit (by omega) hlow, ih⟩

theorem eq_nil_iff (h : PercentEncodes cs bs) : cs = [] ↔ bs = [] := by
  cases h with
  | nil => simp
  | cons => simp

theorem percentDecode_eq (h : PercentEncodes cs bs) :
    percentDecode (cs.map fun c => UInt8.ofNat c.toNat) = bs := by
  induction h with
  | nil => rfl
  | @cons high low b cs bs hhigh hlow hrest ih =>
      have hb := b.toNat_lt
      obtain ⟨-, hhigh⟩ := hexDigit?_of_toLower (by omega) hhigh
      obtain ⟨-, hlow⟩ := hexDigit?_of_toLower (by omega) hlow
      have hpercent : UInt8.ofNat ('%').toNat = 0x25 := rfl
      rw [List.map_cons, List.map_cons, List.map_cons, hpercent, percentDecode,
        hexByte?_digits hhigh hlow, ih]

end PercentEncodes

theorem encode_ascii {cs : List Char} (h : ∀ c ∈ cs, c.toNat < 128) :
    encode (String.ofList cs) = cs.map fun c => UInt8.ofNat c.toNat := by
  rw [encode_eq_flatMap, String.toList_ofList]
  induction cs with
  | nil => rfl
  | cons c cs ih =>
      obtain ⟨hc, hcs⟩ := List.forall_mem_cons.mp h
      rw [List.flatMap_cons, Json.utf8EncodeChar_ascii hc, ih hcs]
      rfl

/-- A text in which every byte is percent-encoded is read back. -/
theorem decode_percentEncoded {cs : List Char} {s : String} (h : PercentEncodes cs (encode s)) :
    decode? (percentDecode (encode (String.ofList cs))) = some s := by
  rw [encode_ascii fun c hc => (h.plain c hc).1, h.percentDecode_eq, decode?_encode]

end TodoPromo.Text
