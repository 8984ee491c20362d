import Mathlib.Algebra.Group.Nat.Defs
import TodoPromo.Proofs.Text.Ascii
import TodoPromo.Proofs.Time.Calendar
import TodoPromo.Time.Notation

/-! # Written instants

Every instant is read back from its text as it was (`readInstant_write`), years of either sign,
fractions and leap seconds included. Each part of the text is taken off the front by the reader of
its own, whatever follows it. -/

namespace TodoPromo.Time

/-! ### Padded numbers -/

theorem padded_digits {width n : Nat} : ∀ c ∈ padded width n, c.isDigit = true :=
  Text.isDigit_leadingZeros _ _

theorem padded_ne_nil {width n : Nat} : padded width n ≠ [] :=
  List.append_ne_nil_of_right_ne_nil _ Nat.toDigits_ne_nil

theorem length_padded {width n : Nat} (h0 : 0 < width) (h : n < 10 ^ width) :
    (padded width n).length = width := by
  have hlength := (Nat.length_toDigits_le_iff (b := 10) (by decide) h0).mpr h
  rw [padded, List.length_append, List.length_replicate]
  omega

theorem value_padded (width n : Nat) : Reader.value (padded width n) = n := by
  have hvalue : ∀ ds : List Char, Reader.value ds = Nat.ofDigitChars 10 ds 0 := fun ds =>
    Nat.ofDigitChars_eq_foldl.symm
  rw [hvalue]
  exact Text.ofDigitChars_leadingZeros _ n

/-! ### Parts of the text -/

namespace Reader

variable {α β : Type} {cs ds rest : List Char}

theorem bind_ok {x : Reader α} {f : α → Reader β} {a : α} (h : x cs = .ok (a, rest)) :
    (x >>= f) cs = f a rest := by
  change (x cs >>= fun p => f p.1 p.2) = _
  rw [h]
  rfl

/-- A text that does not go on with a digit. -/
def NoDigit (cs : List Char) : Prop := ∀ c ∈ cs.head?, c.isDigit = false

theorem skipBlanks_cons {c : Char} (h : Text.isBlank c = false) :
    skipBlanks (c :: rest) = .ok ((), c :: rest) := by
  change Except.ok ((), Text.trimStart (c :: rest)) = _
  rw [Text.trimStart, List.dropWhile_cons_of_neg (by simp [h])]

theorem skipBlanks_digits (hds : ∀ c ∈ ds, c.isDigit = true) (hne : ds ≠ []) :
    skipBlanks (ds ++ rest) = .ok ((), ds ++ rest) := by
  obtain ⟨d, ds, rfl⟩ := List.exists_cons_of_ne_nil hne
  exact skipBlanks_cons (Text.isBlank_of_isDigit (hds d (by simp)))

theorem char_first {p : Char → Bool} {c : Char} (h : p c = true) :
    char p (c :: rest) = .ok (c, rest) := by
  unfold char
  rw [bind_ok (a := c :: rest) rfl]
  simp only [h, if_true]
  rfl

theorem digits_taken {width : Option Nat} (hne : ds ≠ [])
    (htaken : (match width with
      | some w => ((ds ++ rest).takeWhile Char.isDigit).take w
      | none => (ds ++ rest).takeWhile Char.isDigit) = ds) :
    digits width (ds ++ rest) = .ok (ds, rest) := by
  unfold digits
  rw [bind_ok (a := ds ++ rest) rfl]
  obtain ⟨d, ds, rfl⟩ := List.exists_cons_of_ne_nil hne
  cases width with
  | none =>
    simp only at htaken ⊢
    rw [htaken]
    simp
    rfl
  | some w =>
    simp only at htaken ⊢
    rw [htaken]
    simp
    rfl

theorem digits_some (hds : ∀ c ∈ ds, c.isDigit = true) (hne : ds ≠ []) :
    digits (some ds.length) (ds ++ rest) = .ok (ds, rest) := by
  refine digits_taken hne ?_
  change ((ds ++ rest).takeWhile Char.isDigit).take ds.length = ds
  rw [List.takeWhile_append_of_pos hds, List.take_append_of_le_length (Nat.le_refl _),
    List.take_length]

theorem digits_none (hds : ∀ c ∈ ds, c.isDigit = true) (hne : ds ≠ []) (hrest : NoDigit rest) :
    digits none (ds ++ rest) = .ok (ds, rest) := by
  refine digits_taken hne ?_
  change (ds ++ rest).takeWhile Char.isDigit = ds
  have hstop : rest.takeWhile Char.isDigit = [] := by
    cases rest with
    | nil => rfl
    | cons c rest => simp [hrest c rfl]
  rw [List.takeWhile_append_of_pos hds, hstop, List.append_nil]

theorem digits_padded {width n : Nat} (h0 : 0 < width) (h : n < 10 ^ width) :
    digits (some width) (padded width n ++ rest) = .ok (padded width n, rest) := by
  have hdigits : digits (some (padded width n).length) (padded width n ++ rest) =
      .ok (padded width n, rest) := digits_some padded_digits padded_ne_nil
  rwa [length_padded h0 h] at hdigits

theorem field_padded {least greatest n : Nat} (h : n < 100) (hleast : least ≤ n)
    (hgreatest : n ≤ greatest) :
    field 2 least greatest (padded 2 n ++ rest) = .ok (n, rest) := by
  unfold field
  rw [bind_ok (skipBlanks_digits padded_digits padded_ne_nil),
    bind_ok (digits_padded (by decide) h)]
  simp only [value_padded, hleast, hgreatest, decide_true, Bool.and_true, if_true]
  rfl

theorem separator_first {c : Char} (h : Text.isBlank c = false) :
    separator c (c :: rest) = .ok ((), rest) := by
  unfold separator
  rw [bind_ok (skipBlanks_cons h), bind_ok (char_first (by simp))]
  rfl

/-- A year is returned if 32 bits hold it. -/
def yearWithin (n : Int) : Reader Int :=
  if -2147483648 ≤ n && n ≤ 2147483647 then return n else throw .outOfRange

theorem year_minus (cs : List Char) :
    year ('-' :: cs) = (digits none >>= fun ds => yearWithin (-(value ds : Int))) cs := rfl

theorem year_plus (cs : List Char) :
    year ('+' :: cs) = (digits none >>= fun ds => yearWithin (value ds : Int)) cs := rfl

theorem year_digits (hds : ∀ c ∈ ds, c.isDigit = true) (hne : ds ≠ []) :
    year (ds ++ rest) =
      (digits (some 4) >>= fun ds => yearWithin (value ds : Int)) (ds ++ rest) := by
  have hskip : skipBlanks (ds ++ rest) = .ok ((), ds ++ rest) := skipBlanks_digits hds hne
  obtain ⟨d, ds, rfl⟩ := List.exists_cons_of_ne_nil hne
  have hdigit := hds d (by simp)
  have hminus : d ≠ '-' := by
    rintro rfl
    exact absurd hdigit (by decide)
  have hplus : d ≠ '+' := by
    rintro rfl
    exact absurd hdigit (by decide)
  unfold year
  rw [bind_ok hskip, bind_ok (a := d :: ds ++ rest) rfl]
  dsimp only
  generalize htext : d :: ds ++ rest = text
  split
  · exact absurd (List.cons.inj htext).1 hminus
  · exact absurd (List.cons.inj htext).1 hplus
  · rfl

theorem year_write {y : Int} (hleast : -2147483648 ≤ y) (hgreatest : y ≤ 2147483647)
    (hrest : NoDigit rest) : year (writeYear y ++ rest) = .ok (y, rest) := by
  have hwithin : (yearWithin y) rest = .ok (y, rest) := by
    unfold yearWithin
    rw [if_pos (by simp [*])]
    rfl
  have hnumber : ∀ n : Nat, digits none (padded 4 n ++ rest) = .ok (padded 4 n, rest) := fun n =>
    digits_none padded_digits padded_ne_nil hrest
  unfold writeYear
  split
  · rename_i hplain
    simp only [Bool.and_eq_true, decide_eq_true_eq] at hplain
    rw [year_digits padded_digits padded_ne_nil, bind_ok (digits_padded (by decide) (by omega)),
      value_padded, Int.toNat_of_nonneg hplain.1, hwithin]
  · by_cases hnegative : y < 0
    · have hvalue : -((y.natAbs : Nat) : Int) = y := by omega
      rw [if_pos hnegative, List.cons_append, year_minus, bind_ok (hnumber y.natAbs), value_padded,
        hvalue, hwithin]
    · have hvalue : ((y.natAbs : Nat) : Int) = y := by omega
      rw [if_neg hnegative, List.cons_append, year_plus, bind_ok (hnumber y.natAbs), value_padded,
        hvalue, hwithin]

theorem noDigit_cons {c : Char} (h : c.isDigit = false) : NoDigit (c :: rest) := by
  intro d hd
  obtain rfl : c = d := Option.some.inj hd
  exact h

theorem date_write {d : Date} (hleast : -2147483648 ≤ d.year) (hgreatest : d.year ≤ 2147483647)
    (hmonth : 1 ≤ d.month ∧ d.month ≤ 12) (hday : 1 ≤ d.day ∧ d.day ≤ 31) :
    date (writeYear d.year ++ '-' :: (padded 2 d.month ++ '-' :: (padded 2 d.day ++ rest))) =
      .ok (d, rest) := by
  unfold date
  rw [bind_ok (year_write hleast hgreatest (noDigit_cons rfl)), bind_ok (separator_first rfl),
    bind_ok (field_padded (by omega) hmonth.1 hmonth.2), bind_ok (separator_first rfl),
    bind_ok (field_padded (by omega) hday.1 hday.2)]
  rfl

theorem fraction_write {nano : Nat} (h : nano < 1000000000) :
    fraction (writeFraction nano ++ 'Z' :: rest) = .ok (nano, 'Z' :: rest) := by
  have hdigits : ∀ width n, 0 < width → width ≤ 9 → n < 10 ^ width →
      fraction ('.' :: padded width n ++ 'Z' :: rest) =
        .ok (n * 10 ^ (9 - width), 'Z' :: rest) := by
    intro width n hpos hle hn
    have hlength := length_padded hpos hn
    have hread : digits none (padded width n ++ 'Z' :: rest) = .ok (padded width n, 'Z' :: rest) :=
      digits_none padded_digits padded_ne_nil (noDigit_cons rfl)
    change (digits none >>= fun ds => pure (value (ds.take 9) * Nat.pow 10 (9 - (ds.take 9).length)))
      (padded width n ++ 'Z' :: rest) = _
    rw [bind_ok hread, List.take_of_length_le (by omega), value_padded, hlength]
    rfl
  unfold writeFraction
  split
  · rename_i hzero
    rw [hzero]
    rfl
  split
  · rename_i hmillis
    have hvalue : nano / 1000000 * 10 ^ (9 - 3) = nano := by omega
    rw [hdigits 3 _ (by decide) (by decide) (by omega), hvalue]
  split
  · rename_i hmicros
    have hvalue : nano / 1000 * 10 ^ (9 - 6) = nano := by omega
    rw [hdigits 6 _ (by decide) (by decide) (by omega), hvalue]
  · have hvalue : nano * 10 ^ (9 - 9) = nano := by omega
    rw [hdigits 9 _ (by decide) (by decide) h, hvalue]

theorem time_write {h m s nano : Nat} (hh : h ≤ 23) (hm : m ≤ 59) (hs : s ≤ 60)
    (hnano : nano < 1000000000) :
    time (padded 2 h ++ ':' :: (padded 2 m ++ ':' :: (padded 2 s ++
      (writeFraction nano ++ 'Z' :: rest)))) = .ok ((h, m, s, nano), 'Z' :: rest) := by
  unfold time
  rw [bind_ok (field_padded (by omega) (Nat.zero_le h) hh), bind_ok (separator_first rfl),
    bind_ok (field_padded (by omega) (Nat.zero_le m) hm), bind_ok (separator_first rfl),
    bind_ok (field_padded (by omega) (Nat.zero_le s) hs), bind_ok (fraction_write hnano)]
  rfl

theorem offset_zulu : offset ('Z' :: rest) = .ok (0, rest) := rfl

end Reader

/-! ### The whole text -/

theorem ofLocal?_ofDay (t : Instant) :
    Instant.ofLocal? (Date.ofDay t.day) t.second t.nano 0 = some t := by
  obtain ⟨day, second, nano, hfirst, hlast, hsecond, hnano, hleap⟩ := t
  have htotal : (Date.ofDay day).toDay * 86400 + (second : Int) - 0 * 60 =
      day * 86400 + second := by
    rw [Date.toDay_ofDay]
    omega
  have hday : (day * 86400 + (second : Int)) / 86400 = day := by omega
  have hrest : ((day * 86400 + (second : Int)) % 86400).toNat = second := by omega
  unfold Instant.ofLocal?
  simp only [htotal, hday, hrest]
  rw [dif_pos ⟨⟨hfirst, hlast⟩, hnano, hleap⟩]

/-- The date, the time of day and the offset that a text begins with. -/
def Reader.parts : Reader (Date × (Nat × Nat × Nat × Nat) × Int) := do
  let d ← date
  dateTimeSeparator
  let t ← time
  let minutes ← offset
  return (d, t, minutes)

theorem Reader.parts_write (t : Instant) :
    parts t.write = .ok ((Date.ofDay t.day, (t.second / 3600, t.second / 60 % 60,
      t.second % 60 + t.nano / 1000000000, t.nano % 1000000000), 0), []) := by
  have hyear := Date.year_ofDay t.firstDay_le t.le_lastDay
  have hexists := Date.exists?_ofDay t.day
  have hlength : daysInMonth (Date.ofDay t.day).year (Date.ofDay t.day).month ≤ 31 := by
    unfold daysInMonth
    repeat' split
    all_goals decide
  have hsecond := t.second_lt
  have hnano := t.nano_lt
  have hseparator : ∀ rest, dateTimeSeparator ('T' :: rest) = .ok ((), rest) := fun _ => rfl
  have htext : t.write =
      writeYear (Date.ofDay t.day).year ++ '-' :: (padded 2 (Date.ofDay t.day).month ++ '-' ::
        (padded 2 (Date.ofDay t.day).day ++ 'T' :: (padded 2 (t.second / 3600) ++ ':' ::
          (padded 2 (t.second / 60 % 60) ++ ':' ::
            (padded 2 (t.second % 60 + t.nano / 1000000000) ++
              (writeFraction (t.nano % 1000000000) ++ ['Z'])))))) := by
    simp only [Instant.write, List.append_assoc, List.cons_append]
  simp only [Date.exists?, Bool.and_eq_true, decide_eq_true_eq] at hexists
  unfold parts
  rw [htext, bind_ok (date_write (by omega) (by omega) hexists.1.1 ⟨hexists.1.2, by omega⟩),
    bind_ok (hseparator _), bind_ok (time_write (by omega) (by omega) (by omega) (by omega)),
    bind_ok offset_zulu]
  rfl

/-- A written instant is read back as it was. -/
theorem readInstant_write (t : Instant) : readInstant t.write = .ok t := by
  have hdate : ((Date.ofDay t.day).exists? && decide (firstDay ≤ (Date.ofDay t.day).toDay) &&
      decide ((Date.ofDay t.day).toDay ≤ lastDay)) = true := by
    rw [Date.toDay_ofDay, Date.exists?_ofDay]
    simp [t.firstDay_le, t.le_lastDay]
  have hsecond := t.second_lt
  have hnano := t.nano_lt
  -- second 60 stands for the leap second, which is counted with the second before it
  have hclock : (if t.second % 60 + t.nano / 1000000000 = 60
      then (59, t.nano % 1000000000 + 1000000000)
      else (t.second % 60 + t.nano / 1000000000, t.nano % 1000000000)) = (t.second % 60, t.nano) := by
    have hleap := t.leap
    split <;> (apply Prod.ext <;> dsimp only <;> omega)
  have htime : 3600 * (t.second / 3600) + 60 * (t.second / 60 % 60) + t.second % 60 = t.second := by
    omega
  have hoffset : decide (1440 ≤ (0 : Int).natAbs) = false := rfl
  unfold readInstant
  change (Reader.parts t.write >>= _) = _
  rw [Reader.parts_write]
  simp only [bind, Except.bind, List.all_nil, hdate, hoffset, hclock, htime, ofLocal?_ofDay,
    Bool.not_true, Bool.or_false, Bool.false_eq_true, if_false]
  rfl

end TodoPromo.Time
