import TodoPromo.Proofs.Json.Spelling

/-! # Numbers read back

The written numbers have the form of a `Numeral`: a sign, digits, digits after a point and an
exponent, of which only the first digits must be there. A numeral is read to its end, and what it
comes to (`Numeral.value?`) does not hang on what follows (`gives_number`). -/

namespace TodoPromo.Json

/-- A number as it is written, in bytes. -/
structure Numeral where
  negative : Bool
  whole : Bytes
  fraction : Bytes
  /-- The sign of the exponent, and its digits. -/
  exponent : Option (Bool × Bytes)
  whole_digits : ∀ b ∈ whole, isDigit b = true
  whole_ne_nil : whole ≠ []
  fraction_digits : ∀ b ∈ fraction, isDigit b = true
  exponent_digits : ∀ e ∈ exponent, e.2 ≠ [] ∧ ∀ b ∈ e.2, isDigit b = true

namespace Numeral

def fractionText (n : Numeral) : Bytes := if n.fraction = [] then [] else 0x2E :: n.fraction

def exponentText (n : Numeral) : Bytes :=
  match n.exponent with
  | none => []
  | some (negative, ds) => 0x65 :: (if negative then 0x2D else 0x2B) :: ds

def unsignedText (n : Numeral) : Bytes := n.whole ++ (n.fractionText ++ n.exponentText)

def text (n : Numeral) : Bytes := (if n.negative then [0x2D] else []) ++ n.unsignedText

def exponentValue (n : Numeral) : Int :=
  match n.exponent with
  | none => 0
  | some (negative, ds) => if negative then -(digitsValue ds : Int) else digitsValue ds

/-- What reading the digits after the whole part `s` comes to, of which `omitted` are left out. -/
def tailValue? (n : Numeral) (s omitted : Nat) : Option Number :=
  if n.fraction = [] ∧ n.exponent = none ∧ omitted = 0 then some (wholeNumber n.negative s)
  else
    let (s', left) := appendDigits s n.fraction
    let shift : Int := (omitted : Int) - (n.fraction.length - left.length : Nat)
    match scale s' (shift + n.exponentValue) with
    | .ok x => some (.float n.negative x)
    | .error _ => none

/-- What a numeral comes to: nothing if it begins with a needless zero or is out of range. -/
def value? (n : Numeral) : Option Number :=
  match n.whole with
  | 0x30 :: _ :: _ => none
  | _ => n.tailValue? (appendDigits 0 n.whole).1 (appendDigits 0 n.whole).2.length

end Numeral

/-! ### Reading numerals -/

/-- A text that does not go on with a digit. -/
def NoDigit : Bytes → Prop
  | [] => True
  | b :: _ => isDigit b = false

theorem Delimited.noDigit {rest : Bytes} (h : Delimited rest) : NoDigit rest := by
  cases rest with
  | nil => trivial
  | cons b bs => rcases h with rfl | rfl | rfl <;> rfl

theorem spanDigits_append {ds bs : Bytes} (hd : ∀ b ∈ ds, isDigit b = true) (hb : NoDigit bs) :
    spanDigits (ds ++ bs) = (ds, bs) := by
  have hbs : bs.takeWhile isDigit = [] ∧ bs.dropWhile isDigit = bs := by
    cases bs with
    | nil => exact ⟨rfl, rfl⟩
    | cons b bs =>
        have hf : isDigit b = false := hb
        simp [hf]
  rw [spanDigits, List.takeWhile_append_of_pos hd, List.dropWhile_append_of_pos hd, hbs.1, hbs.2,
    List.append_nil]

theorem exponentPart_numeral (n : Numeral) {rest : Bytes} (h : Delimited rest) :
    exponentPart (n.exponentText ++ rest) = .ok (n.exponentValue, rest) := by
  unfold Numeral.exponentText Numeral.exponentValue
  cases he : n.exponent with
  | none =>
      cases rest with
      | nil => rfl
      | cons b bs => rcases h with rfl | rfl | rfl <;> rfl
  | some p =>
      obtain ⟨negative, ds⟩ := p
      obtain ⟨hne, hds⟩ := n.exponent_digits _ he
      have hs := spanDigits_append hds h.noDigit
      have hempty : ds.isEmpty = false := by simpa using hne
      cases negative <;> simp [exponentPart, hs, hempty]

theorem gives_finishFloat (n : Numeral) (s : Nat) (shift : Int) {rest : Bytes}
    (h : Delimited rest) :
    Gives (finishFloat n.negative s shift (n.exponentText ++ rest)) rest
      (match scale s (shift + n.exponentValue) with
        | .ok x => some (.float n.negative x)
        | .error _ => none) := by
  rw [finishFloat, exponentPart_numeral n h]
  cases hs : scale s (shift + n.exponentValue) with
  | error c => exact ⟨c, by simp [hs]⟩
  | ok x => simp [Gives, hs]

theorem Numeral.noDigit_exponentText (n : Numeral) {rest : Bytes} (h : NoDigit rest) :
    NoDigit (n.exponentText ++ rest) := by
  unfold exponentText
  cases n.exponent with
  | none => exact h
  | some p => rfl

theorem Numeral.noDigit_fractionText (n : Numeral) {rest : Bytes} (h : NoDigit rest) :
    NoDigit (n.fractionText ++ rest) := by
  unfold fractionText
  split
  · exact h
  · rfl

/-- The part behind the whole digits: a point and more digits, an exponent, or nothing. -/
theorem gives_numberTail (n : Numeral) (s omitted : Nat) {rest : Bytes} (h : Delimited rest) :
    Gives (numberTail n.negative s omitted (n.fractionText ++ (n.exponentText ++ rest))) rest
      (n.tailValue? s omitted) := by
  by_cases hf : n.fraction = []
  · have ht : n.fractionText = [] := by simp [Numeral.fractionText, hf]
    have hfloat := gives_finishFloat n s omitted h
    rw [ht, List.nil_append]
    cases he : n.exponent with
    | none =>
        have het : n.exponentText = [] := by simp [Numeral.exponentText, he]
        rw [het, List.nil_append] at hfloat ⊢
        have htail : numberTail n.negative s omitted rest =
            if omitted = 0 then .ok (wholeNumber n.negative s, rest)
            else finishFloat n.negative s omitted rest := by
          cases rest with
          | nil => by_cases ho : omitted = 0 <;> simp [numberTail, ho]
          | cons b bs =>
              rcases h with rfl | rfl | rfl <;> by_cases ho : omitted = 0 <;>
                simp [numberTail, ho]
        rw [htail]
        by_cases ho : omitted = 0
        · simp [Numeral.tailValue?, hf, he, ho, Gives]
        · simpa [Numeral.tailValue?, hf, he, ho, appendDigits] using hfloat
    | some p =>
        have htail : numberTail n.negative s omitted (n.exponentText ++ rest) =
            finishFloat n.negative s omitted (n.exponentText ++ rest) := by
          simp [Numeral.exponentText, he, numberTail]
        rw [htail]
        simpa [Numeral.tailValue?, hf, he, appendDigits] using hfloat
  · have ht : n.fractionText = 0x2E :: n.fraction := by simp [Numeral.fractionText, hf]
    have hs := spanDigits_append n.fraction_digits
      (n.noDigit_exponentText h.noDigit)
    have hfloat := gives_finishFloat n (appendDigits s n.fraction).1
      ((omitted : Int) - (n.fraction.length - (appendDigits s n.fraction).2.length : Nat)) h
    have hempty : n.fraction.isEmpty = false := by simpa using hf
    rw [ht, List.cons_append]
    simpa [numberTail, hs, hempty, Numeral.tailValue?, hf] using hfloat

theorem gives_unsignedNumber (n : Numeral) {rest : Bytes} (h : Delimited rest) :
    Gives (unsignedNumber n.negative (n.unsignedText ++ rest)) rest n.value? := by
  have hs := spanDigits_append n.whole_digits
    (n.noDigit_fractionText (n.noDigit_exponentText h.noDigit))
  have htail := gives_numberTail n (appendDigits 0 n.whole).1 (appendDigits 0 n.whole).2.length h
  rw [Numeral.unsignedText, List.append_assoc, List.append_assoc, unsignedNumber, hs]
  unfold Numeral.value?
  dsimp only
  split
  · rename_i hw
    exact absurd hw n.whole_ne_nil
  · rename_i hw
    simp only [hw]
    exact ⟨_, rfl⟩
  · rename_i hne hw
    split
    · rename_i hw'
      exact absurd hw' (hw _ _)
    · exact htail

/-- The whole digits do not begin with a sign. -/
theorem Numeral.whole_append_ne_minus (n : Numeral) (tail bs : Bytes) : n.whole ++ tail ≠ 0x2D :: bs := by
  obtain ⟨b, ds, hwhole⟩ := List.exists_cons_of_ne_nil n.whole_ne_nil
  have hdigit := n.whole_digits b (by simp [hwhole])
  intro heq
  rw [hwhole] at heq
  rw [(List.cons.inj heq).1] at hdigit
  cases hdigit

theorem gives_number (n : Numeral) {rest : Bytes} (h : Delimited rest) :
    Gives (number (n.text ++ rest)) rest n.value? := by
  have hu := gives_unsignedNumber n h
  unfold Numeral.text
  cases hn : n.negative with
  | true =>
      rw [hn] at hu
      exact hu
  | false =>
      rw [hn] at hu
      have hnum : number (n.unsignedText ++ rest) =
          unsignedNumber false (n.unsignedText ++ rest) := by
        rw [Numeral.unsignedText, List.append_assoc]
        unfold number
        split
        · rename_i heq
          exact absurd heq (n.whole_append_ne_minus _ _)
        · rfl
      change Gives (number (n.unsignedText ++ rest)) rest n.value?
      rw [hnum]
      exact hu

theorem Numeral.starts_text (n : Numeral) :
    ∃ b bs, n.text = b :: bs ∧ (b == 0x2D || isDigit b) = true ∧ isSpace b = false ∧ b ≠ 0x5D := by
  have hdigit : ∀ b : UInt8, isDigit b = true → isSpace b = false ∧ b ≠ 0x5D := by
    intro b hb
    refine ⟨?_, ?_⟩
    · simp only [isDigit, isSpace, Bool.and_eq_true, decide_eq_true_eq, UInt8.le_iff_toNat_le] at hb ⊢
      have h0 : (0x30 : UInt8).toNat = 48 := rfl
      simp only [Bool.or_eq_false_iff, beq_eq_false_iff_ne, ne_eq]
      refine ⟨⟨⟨?_, ?_⟩, ?_⟩, ?_⟩ <;> (rintro rfl; revert hb; decide)
    · rintro rfl
      revert hb
      decide
  obtain ⟨b, bs, hb⟩ := List.exists_cons_of_ne_nil n.whole_ne_nil
  have hd := n.whole_digits b (by simp [hb])
  unfold text unsignedText
  cases n.negative with
  | true => exact ⟨0x2D, _, rfl, rfl, rfl, by decide⟩
  | false =>
      rw [hb]
      exact ⟨b, _, rfl, by simp [hd], hdigit b hd⟩

/-- A numeral is read to its end as a number. -/
theorem spells_numeral (expected : String) (n : Numeral) :
    Spells (Reader.numberFor expected) n.text n.value? := by
  obtain ⟨b, bs, htext, hstart, hspace, hne⟩ := n.starts_text
  refine ⟨by rw [htext]; exact ⟨hspace, hne⟩, fun rest h => ?_⟩
  have hg := gives_number n h
  rw [htext] at hg ⊢
  rw [List.cons_append, Reader.numberFor, Reader.value_cons hspace hstart]
  exact hg.step

end TodoPromo.Json
