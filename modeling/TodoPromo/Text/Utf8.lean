/-! # Text as bytes

A text and its UTF-8 bytes. Main statements: `decode? (encode s) = some s`, and bytes that decode
are the encoding of what they decode to, so a text has exactly one written form.

Bytes can be percent-encoded: a percent sign followed by two hexadecimal digits stands for the byte
with that number. One that is not followed by two such digits stands for itself, so every text has a
reading. -/

namespace TodoPromo

/-- What files, stored values and message bodies are made of. -/
abbrev Bytes := List UInt8

namespace Text

/-- The UTF-8 bytes of a text. -/
def encode (s : String) : Bytes := s.toUTF8.data.toList

/-- The text that these bytes spell, if they are well-formed UTF-8. -/
def decode? (bs : Bytes) : Option String := String.fromUTF8? ⟨bs.toArray⟩

@[simp] theorem decode?_encode (s : String) : decode? (encode s) = some s := by
  have h : (⟨(encode s).toArray⟩ : ByteArray) = s.toUTF8 := by simp [encode]
  rw [decode?, h, String.fromUTF8?, String.toUTF8_eq_toByteArray, dif_pos s.isValidUTF8]
  rfl

theorem encode_of_decode? {bs : Bytes} {s : String} (h : decode? bs = some s) : encode s = bs := by
  unfold decode? String.fromUTF8? at h
  split at h
  · rw [Option.some.injEq] at h
    subst h
    simp [encode, String.fromUTF8]
  · contradiction

theorem encode_inj {s t : String} (h : encode s = encode t) : s = t := by
  have := congrArg decode? h
  simpa using this

/-! ### Percent-encoding -/

/-- The value of a hexadecimal digit, of either case. -/
def hexDigit? (b : UInt8) : Option UInt8 :=
  if 0x30 ≤ b && b ≤ 0x39 then some (b - 0x30)
  else if 0x41 ≤ b && b ≤ 0x46 then some (b - 0x41 + 10)
  else if 0x61 ≤ b && b ≤ 0x66 then some (b - 0x61 + 10)
  else none

/-- The byte that two hexadecimal digits spell. -/
def hexByte? (a b : UInt8) : Option UInt8 := do
  let hi ← hexDigit? a
  let lo ← hexDigit? b
  return hi * 16 + lo

/-- The bytes that a percent-encoded text stands for. -/
def percentDecode : Bytes → Bytes
  | 0x25 :: a :: b :: rest =>
    match hexByte? a b with
    | some v => v :: percentDecode rest
    | none => 0x25 :: percentDecode (a :: b :: rest)
  | b :: rest => b :: percentDecode rest
  | [] => []

end Text
end TodoPromo
