import TodoPromo.Json.Record
import TodoPromo.Proofs.Json.Strings
import TodoPromo.Proofs.Json.WrittenNumbers
import TodoPromo.Proofs.Time.WrittenInstants

/-! # The kinds of fields read back

`Kind.reread` is what reading the written form of a field's value gives, if it gives anything, and
every value spells that (`Kind.spells`). Texts, flags and instants give themselves; finite numbers give
some number, and others give none. -/

namespace TodoPromo.Json

/-! ### Instants -/

/-- A character that is written as itself, as one byte. -/
def IsPlainChar (c : Char) : Prop := 0x20 ≤ c.toNat ∧ c.toNat < 0x80 ∧ c ≠ '"' ∧ c ≠ '\\'

theorem writeChar_plain {c : Char} (h : IsPlainChar c) : writeChar c = [UInt8.ofNat c.toNat] := by
  obtain ⟨hlo, hhi, hquote, hback⟩ := h
  have hne : ∀ d : Char, d.toNat < 0x20 → c ≠ d := by
    rintro d hd rfl
    omega
  unfold writeChar
  rw [if_neg hquote, if_neg hback, if_neg (hne _ (by decide)), if_neg (hne _ (by decide)),
    if_neg (hne _ (by decide)), if_neg (hne _ (by decide)), if_neg (hne _ (by decide)),
    if_neg (by omega), utf8EncodeChar_ascii hhi]

theorem writeString_plain {cs : List Char} (h : ∀ c ∈ cs, IsPlainChar c) :
    writeString (String.ofList cs) = 0x22 :: ascii cs ++ [0x22] := by
  have hflat : cs.flatMap writeChar = ascii cs := by
    induction cs with
    | nil => rfl
    | cons c cs ih =>
        rw [List.flatMap_cons, writeChar_plain (h c (by simp)),
          ih fun c' hc' => h c' (by simp [hc'])]
        rfl
  simp [writeString, hflat]

theorem isPlainChar_of_isDigit {c : Char} (h : c.isDigit = true) : IsPlainChar c := by
  have hc := Text.toNat_of_isDigit h
  refine ⟨by omega, by omega, ?_, ?_⟩ <;> (rintro rfl; revert h; decide)

theorem isPlainChar_padded {width n : Nat} : ∀ c ∈ Time.padded width n, IsPlainChar c :=
  fun c hc => isPlainChar_of_isDigit (Time.padded_digits c hc)

/-- The signs and letters that stand in an instant. -/
theorem isPlainChar_marks : ∀ c ∈ ['-', '+', 'T', ':', '.', 'Z'], IsPlainChar c := by
  intro c hc
  simp only [List.mem_cons, List.not_mem_nil, or_false] at hc
  rcases hc with rfl | rfl | rfl | rfl | rfl | rfl
  all_goals exact ⟨by decide, by decide, by decide, by decide⟩

theorem isPlainChar_writeYear {y : Int} : ∀ c ∈ Time.writeYear y, IsPlainChar c := by
  unfold Time.writeYear
  split
  · exact isPlainChar_padded
  · refine List.forall_mem_cons.mpr ⟨?_, isPlainChar_padded⟩
    split <;> exact isPlainChar_marks _ (by simp)

theorem isPlainChar_writeFraction {n : Nat} : ∀ c ∈ Time.writeFraction n, IsPlainChar c := by
  have hpoint : ∀ {w m : Nat}, ∀ c ∈ '.' :: Time.padded w m, IsPlainChar c :=
    List.forall_mem_cons.mpr ⟨isPlainChar_marks _ (by simp), isPlainChar_padded⟩
  unfold Time.writeFraction
  split
  · simp
  split
  · exact hpoint
  split
  · exact hpoint
  · exact hpoint

theorem isPlainChar_write (t : Time.Instant) : ∀ c ∈ t.write, IsPlainChar c := by
  have hdash := isPlainChar_marks '-' (by simp)
  have hcolon := isPlainChar_marks ':' (by simp)
  have hT := isPlainChar_marks 'T' (by simp)
  have hZ := isPlainChar_marks 'Z' (by simp)
  simp only [Time.Instant.write, List.forall_mem_append, List.forall_mem_cons, hdash, hcolon, hT,
    hZ, true_and]
  refine ⟨⟨⟨⟨⟨⟨⟨?_, ?_⟩, ?_⟩, ?_⟩, ?_⟩, ?_⟩, ?_⟩, by simp⟩
  · exact isPlainChar_writeYear
  · exact isPlainChar_padded
  · exact isPlainChar_padded
  · exact isPlainChar_padded
  · exact isPlainChar_padded
  · exact isPlainChar_padded
  · exact isPlainChar_writeFraction

theorem writeInstant_eq (t : Time.Instant) : writeInstant t = writeString (String.ofList t.write) :=
  (writeString_plain (isPlainChar_write t)).symm

/-- A written instant is read as the reader of its text says. -/
theorem spells_writeInstant (t : Time.Instant) :
    Spells Reader.instant (writeInstant t) (Time.readInstant t.write).toOption := by
  rw [writeInstant_eq]
  refine ⟨startsValue_writeString _, fun rest _ => ?_⟩
  rw [Reader.instant, Reader.bind_ok (textFor_writeString _ _ rest), String.toList_ofList]
  cases Time.readInstant t.write with
  | error e => exact ⟨_, rfl⟩
  | ok t' => rfl

/-! ### All kinds -/

namespace Kind

/-- What reading the written form of a value gives. -/
def reread (k : Kind) (v : k.Value) : Option k.Value :=
  match k.read (k.write v) with
  | .ok (v', _) => some v'
  | .error _ => none

theorem reread_of_spells {k : Kind} {v : k.Value} {o : Option k.Value}
    (h : Spells k.read (k.write v) o) : k.reread v = o := by
  have hg := h.gives [] delimited_nil
  rw [List.append_nil] at hg
  unfold reread
  cases o with
  | none =>
      obtain ⟨e, he⟩ := hg
      rw [he]
  | some v' =>
      change k.read (k.write v) = .ok (v', []) at hg
      rw [hg]

theorem spells (k : Kind) (v : k.Value) : Spells k.read (k.write v) (k.reread v) := by
  have h : ∃ o, Spells k.read (k.write v) o := by
    cases k with
    | text => exact ⟨_, spells_writeString v⟩
    | flag => exact ⟨_, spells_writeBool v⟩
    | single =>
        obtain ⟨o, ho, -⟩ := exists_spells_writeSingle v
        exact ⟨o, ho⟩
    | instant => exact ⟨_, spells_writeInstant v⟩
  obtain ⟨o, ho⟩ := h
  rw [reread_of_spells ho]
  exact ho

@[simp] theorem reread_text (s : String) : reread .text s = some s :=
  reread_of_spells (k := .text) (spells_writeString s)

@[simp] theorem reread_flag (b : Bool) : reread .flag b = some b :=
  reread_of_spells (k := .flag) (spells_writeBool b)

@[simp] theorem reread_instant (t : Time.Instant) : reread .instant t = some t := by
  have hspells := spells_writeInstant t
  rw [Time.readInstant_write] at hspells
  exact reread_of_spells (k := .instant) hspells

/-- Exactly the finite numbers are read back as numbers. -/
theorem isSome_reread_single (x : Single) : (reread .single x).isSome = x.isFinite := by
  obtain ⟨o, ho, hfinite⟩ := exists_spells_writeSingle x
  rw [reread_of_spells (k := .single) ho, hfinite]

end Kind

end TodoPromo.Json
