import TodoPromo.Json.Error
import TodoPromo.Text.Utf8

/-! # Reading JSON text

Readers that take one item off the front of the bytes: white space, the three words, strings,
numbers, separators, and whole values that nobody asked for. Strings are collected as bytes and
must be UTF-8 as a whole; numbers are computed in 64 bits, as far as the digits fit, and then
scaled by a power of ten. -/

namespace TodoPromo.Json

/-- A reader takes its item off the front of the bytes. -/
abbrev Reader := StateT Bytes (Except Failure)

namespace Reader

variable {α : Type}

def fail (c : Cause) : Reader α := throw ⟨none, c⟩

/-- Failures inside are failures of this member of the outermost value. -/
def within (p : Place) (r : Reader α) : Reader α := fun bs =>
  match r bs with
  | .ok x => .ok x
  | .error e => .error { e with place := some p }

/-- A pure step on the bytes as a reader. -/
def step (f : Bytes → Except Cause (α × Bytes)) : Reader α := fun bs =>
  match f bs with
  | .ok x => .ok x
  | .error c => .error ⟨none, c⟩

end Reader

/-! ### Bytes -/

def isSpace (b : UInt8) : Bool := b == 0x20 || b == 0x0A || b == 0x09 || b == 0x0D

def skipSpace (bs : Bytes) : Bytes := bs.dropWhile isSpace

def isDigit (b : UInt8) : Bool := 0x30 ≤ b && b ≤ 0x39

/-- The rest of a word whose first letter was seen. -/
def word : List UInt8 → Bytes → Except Cause Bytes
  | [], bs => .ok bs
  | _ :: _, [] => .error .endInValue
  | w :: ws, b :: bs => if b = w then word ws bs else .error .expectedWord

/-! ### Strings -/

/-- The number that four hexadecimal digits spell, and what follows them. -/
def fourHex : Bytes → Except Cause (Nat × Bytes)
  | a :: b :: c :: d :: rest =>
    match Text.hexByte? a b, Text.hexByte? c d with
    | some hi, some lo => .ok (hi.toNat * 256 + lo.toNat, rest)
    | _, _ => .error .invalidEscape
  | _ => .error .endInString

/-- The second half of a pair of surrogates, which must follow the first at once. -/
def lowSurrogate : Bytes → Except Cause (Nat × Bytes)
  | [] => .error .endInString
  | b :: rest =>
    if b ≠ 0x5C then .error .brokenSurrogatePair else
    match rest with
    | [] => .error .endInString
    | b :: rest =>
      if b ≠ 0x75 then .error .brokenSurrogatePair else
      match fourHex rest with
      | .error c => .error c
      | .ok (n, rest) =>
        if 0xDC00 ≤ n ∧ n ≤ 0xDFFF then .ok (n, rest) else .error .loneSurrogate

/-- The character whose number follows `\u`. -/
def unicodeEscape (bs : Bytes) : Except Cause (Bytes × Bytes) :=
  match fourHex bs with
  | .error c => .error c
  | .ok (n, rest) =>
    if 0xDC00 ≤ n ∧ n ≤ 0xDFFF then .error .loneSurrogate
    else if 0xD800 ≤ n ∧ n ≤ 0xDBFF then
      match lowSurrogate rest with
      | .error c => .error c
      | .ok (low, rest) =>
        .ok (String.utf8EncodeChar (Char.ofNat ((n - 0xD800) * 0x400 + (low - 0xDC00) + 0x10000)),
          rest)
    else .ok (String.utf8EncodeChar (Char.ofNat n), rest)

/-- The byte that a letter after a backslash stands for. -/
def shortEscape? : UInt8 → Option UInt8
  | 0x22 => some 0x22
  | 0x5C => some 0x5C
  | 0x2F => some 0x2F
  | 0x62 => some 0x08
  | 0x66 => some 0x0C
  | 0x6E => some 0x0A
  | 0x72 => some 0x0D
  | 0x74 => some 0x09
  | _ => none

/-- What follows a backslash: the bytes it stands for, and the rest. -/
def escape : Bytes → Except Cause (Bytes × Bytes)
  | [] => .error .endInString
  | b :: rest =>
    if b = 0x75 then unicodeEscape rest
    else match shortEscape? b with
      | some v => .ok ([v], rest)
      | none => .error .invalidEscape

theorem fourHex_length {bs rest : Bytes} {n : Nat} (h : fourHex bs = .ok (n, rest)) :
    rest.length < bs.length := by
  unfold fourHex at h
  split at h
  · split at h <;> simp_all
    omega
  · simp at h

theorem lowSurrogate_length {bs rest : Bytes} {n : Nat} (h : lowSurrogate bs = .ok (n, rest)) :
    rest.length < bs.length := by
  unfold lowSurrogate at h
  repeat' (split at h <;> try contradiction)
  rename_i hx _
  have := fourHex_length hx
  simp_all
  omega

theorem unicodeEscape_length {bs out rest : Bytes} (h : unicodeEscape bs = .ok (out, rest)) :
    rest.length < bs.length := by
  unfold unicodeEscape at h
  split at h
  · contradiction
  · rename_i hx
    have hlt := fourHex_length hx
    repeat' (split at h <;> try contradiction)
    · rename_i hy
      have := lowSurrogate_length hy
      simp_all
      omega
    · simp_all

theorem escape_length {bs out rest : Bytes} (h : escape bs = .ok (out, rest)) :
    rest.length < bs.length := by
  unfold escape at h
  repeat' (split at h <;> try contradiction)
  · have := unicodeEscape_length h
    simp
    omega
  · simp_all

/-- The rest of a string whose opening quote was read: the bytes that it spells, after those
collected so far, which come last first. -/
def stringBytes (collected : Bytes) (bs : Bytes) : Except Cause (Bytes × Bytes) :=
  match bs with
  | [] => .error .endInString
  | b :: rest =>
    if b = 0x22 then .ok (collected.reverse, rest)
    else if b = 0x5C then
      match _h : escape rest with
      | .error c => .error c
      | .ok (out, rest) => stringBytes (out.reverse ++ collected) rest
    else if b < 0x20 then .error .controlCharacter
    else stringBytes (b :: collected) rest
termination_by bs.length
decreasing_by
  · have := escape_length _h
    simp
    omega
  · simp

/-- A string whose opening quote was read. -/
def stringRest (bs : Bytes) : Except Cause (String × Bytes) :=
  match stringBytes [] bs with
  | .error c => .error c
  | .ok (raw, rest) =>
    match Text.decode? raw with
    | some s => .ok (s, rest)
    | none => .error .notUnicode

/-- The rest of a string that nobody asked for: its escapes are checked for their form only. -/
def skipString : Bytes → Except Cause Bytes
  | [] => .error .endInString
  | 0x22 :: rest => .ok rest
  | 0x5C :: 0x75 :: a :: b :: c :: d :: rest =>
    match fourHex [a, b, c, d] with
    | .ok _ => skipString rest
    | .error e => .error e
  | 0x5C :: b :: rest =>
    if b = 0x75 then .error .endInString
    else match shortEscape? b with
      | some _ => skipString rest
      | none => .error .invalidEscape
  | b :: rest =>
    if b = 0x5C then .error .endInString
    else if b < 0x20 then .error .controlCharacter
    else skipString rest

/-! ### Numbers -/

/-- The powers of ten by which a significand is scaled, each rounded to 64 bits. -/
def powerOfTen (n : Nat) : Binary.Scaled := (Binary.Format.double.nearest (Nat.pow 10 n) 1).getD ⟨0, 0⟩

/-- A significand of 64 bits times a power of ten. Every operation rounds to 64 bits. Two divisions
by 10³⁰⁸ turn any significand into zero. -/
def scale (significand : Nat) (exponent : Int) : Except Cause Binary.Scaled :=
  let f := (Binary.Format.double.nearest significand 1).getD ⟨0, 0⟩
  let zero : Binary.Scaled := ⟨0, Binary.Format.double.least⟩
  if 0 ≤ exponent then
    if f.mantissa = 0 then .ok zero
    else if 308 < exponent then .error .numberOutOfRange
    else match f.mul .double (powerOfTen exponent.toNat) with
      | some x => .ok x
      | none => .error .numberOutOfRange
  else
    let divide (f : Binary.Scaled) (n : Nat) := (f.div .double (powerOfTen n)).getD zero
    let n := exponent.natAbs
    if n ≤ 308 then .ok (divide f n)
    else if n ≤ 616 then .ok (divide (divide f 308) (n - 308))
    else .ok zero

/-- Digits are appended to a significand while it fits 64 bits; the rest of them is left. -/
def appendDigits : Nat → Bytes → Nat × Bytes
  | s, [] => (s, [])
  | s, b :: rest =>
    let s' := s * 10 + (b - 0x30).toNat
    if isDigit b && s' < UInt64.size then appendDigits s' rest else (s, b :: rest)

/-- The digits in front, and what follows them. -/
def spanDigits (bs : Bytes) : Bytes × Bytes := (bs.takeWhile isDigit, bs.dropWhile isDigit)

/-- The number that a row of digits spells. -/
def digitsValue (ds : Bytes) : Nat := ds.foldl (fun n d => 10 * n + (d - 0x30).toNat) 0

/-- An end of the text and a wrong character in a number are different causes. -/
def numberEnd : Bytes → Cause
  | [] => .endInValue
  | _ => .invalidNumber

/-- An exponent, if there is one. -/
def exponentPart : Bytes → Except Cause (Int × Bytes)
  | b :: rest =>
    if b = 0x65 ∨ b = 0x45 then
      let (negative, rest) := match rest with
        | 0x2B :: r => (false, r)
        | 0x2D :: r => (true, r)
        | r => (false, r)
      let (ds, rest) := spanDigits rest
      if ds.isEmpty then .error (numberEnd rest)
      else
        let n : Int := digitsValue ds
        .ok (if negative then -n else n, rest)
    else .ok (0, b :: rest)
  | [] => .ok (0, [])

/-- A number from its significand, scaled by the digits that were left out or stood after the
point, and by the exponent that follows. -/
def finishFloat (negative : Bool) (significand : Nat) (shift : Int) (bs : Bytes) :
    Except Cause (Number × Bytes) :=
  match exponentPart bs with
  | .error c => .error c
  | .ok (e, rest) =>
    match scale significand (shift + e) with
    | .error c => .error c
    | .ok x => .ok (.float negative x, rest)

/-- A number without a point or exponent that fits 64 bits. Minus zero, and what is below the
least integer, are floating-point numbers. -/
def wholeNumber (negative : Bool) (n : Nat) : Number :=
  if !negative then .integer n
  else if n = 0 ∨ 0x8000000000000000 < n then
    .float true ((Binary.Format.double.nearest n 1).getD ⟨0, 0⟩)
  else .integer (-n)

/-- What follows the integer part: `omitted` of its digits did not fit the significand. -/
def numberTail (negative : Bool) (significand omitted : Nat) :
    Bytes → Except Cause (Number × Bytes)
  | 0x2E :: rest =>
    let (ds, after) := spanDigits rest
    if ds.isEmpty then .error (numberEnd after)
    else
      let (s, left) := appendDigits significand ds
      finishFloat negative s ((omitted : Int) - (ds.length - left.length : Nat)) after
  | bs =>
    let isFloat := match bs with
      | b :: _ => b == 0x65 || b == 0x45
      | [] => false
    if omitted = 0 && !isFloat then .ok (wholeNumber negative significand, bs)
    else finishFloat negative significand omitted bs

/-- A number without its sign. -/
def unsignedNumber (negative : Bool) (bs : Bytes) : Except Cause (Number × Bytes) :=
  let (ds, after) := spanDigits bs
  match ds with
  | [] => .error (numberEnd after)
  | 0x30 :: _ :: _ => .error .invalidNumber
  | _ =>
    let (s, left) := appendDigits 0 ds
    numberTail negative s left.length after

/-- A number at whose first character the bytes stand. -/
def number : Bytes → Except Cause (Number × Bytes)
  | 0x2D :: rest => unsignedNumber true rest
  | bs => unsignedNumber false bs

/-- Digits, at least one. -/
def skipDigits (bs : Bytes) : Except Cause Bytes :=
  let (ds, rest) := spanDigits bs
  if ds.isEmpty then .error .invalidNumber else .ok rest

/-- A number that nobody asked for. -/
def skipNumber (bs : Bytes) : Except Cause Bytes := do
  let bs := match bs with
    | 0x2D :: r => r
    | r => r
  let (ds, rest) := spanDigits bs
  match ds with
  | [] | 0x30 :: _ :: _ => throw .invalidNumber
  | _ => pure ()
  let rest ← match rest with
    | 0x2E :: r => skipDigits r
    | r => pure r
  match rest with
  | b :: r =>
    if b = 0x65 ∨ b = 0x45 then
      skipDigits (match r with
        | 0x2B :: r => r
        | 0x2D :: r => r
        | r => r)
    else pure (b :: r)
  | [] => pure []

/-! ### Whole values -/

/-- A bracket that waits to be closed. -/
inductive Opener where
  | list
  | object
  deriving DecidableEq

/-- A value without parts, or the opening of one that has parts. -/
def skipScalar (bs : Bytes) : Except Cause (Option Opener × Bytes) :=
  match skipSpace bs with
  | [] => .error .endInValue
  | 0x6E :: rest => (none, ·) <$> word [0x75, 0x6C, 0x6C] rest
  | 0x74 :: rest => (none, ·) <$> word [0x72, 0x75, 0x65] rest
  | 0x66 :: rest => (none, ·) <$> word [0x61, 0x6C, 0x73, 0x65] rest
  | 0x22 :: rest => (none, ·) <$> skipString rest
  | 0x5B :: rest => .ok (some .list, rest)
  | 0x7B :: rest => .ok (some .object, rest)
  | b :: rest =>
    if b = 0x2D ∨ isDigit b then (none, ·) <$> skipNumber (b :: rest)
    else .error .expectedValue

/-- Up to the next value inside an open bracket: past the key and the colon of an object. -/
def skipKey (o : Opener) (bs : Bytes) : Except Cause Bytes :=
  match o with
  | .list => .ok bs
  | .object =>
    match skipSpace bs with
    | [] => .error .endInObject
    | 0x22 :: rest => do
      let rest ← skipString rest
      match skipSpace rest with
      | [] => .error .endInObject
      | 0x3A :: rest => .ok rest
      | _ :: _ => .error .expectedColon
    | _ :: _ => .error .keyNotString

/-- Closes brackets as long as they are closed in the text, and stops before the next value of the
innermost bracket that stays open. A comma is due unless that bracket was opened just before. -/
def closeOpeners (commaDue : Bool) : List Opener → Bytes → Except Cause (List Opener × Bytes)
  | [], bs => .ok ([], bs)
  | o :: stack, bs =>
    match skipSpace bs with
    | [] => .error (match o with
      | .list => .endInList
      | .object => .endInObject)
    | b :: rest =>
      if b = 0x2C ∧ commaDue then (o :: stack, ·) <$> skipKey o rest
      else if (b = 0x5D ∧ o = .list) ∨ (b = 0x7D ∧ o = .object) then
        closeOpeners true stack rest
      else if commaDue then .error (match o with
        | .list => .expectedCommaOrListEnd
        | .object => .expectedCommaOrObjectEnd)
      else (o :: stack, ·) <$> skipKey o (b :: rest)

/-- Skips a value inside the given open brackets, and all that follows up to their end. Every
round takes a byte, so as many rounds as there are bytes suffice. -/
def skipOpen : Nat → List Opener → Bytes → Except Cause Bytes
  | 0, _, _ => .error .endInValue
  | fuel + 1, stack, bs => do
    let (opened, bs) ← skipScalar bs
    let (stack, bs) ← match opened with
      | some o => closeOpeners false (o :: stack) bs
      | none => closeOpeners true stack bs
    if stack.isEmpty then .ok bs else skipOpen fuel stack bs

/-- Skips a value of any kind, however deeply nested. -/
def skipValue (bs : Bytes) : Except Cause Bytes := skipOpen (bs.length + 1) [] bs

end TodoPromo.Json
