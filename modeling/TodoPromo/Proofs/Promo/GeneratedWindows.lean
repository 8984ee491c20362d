import Mathlib.Data.List.Forall2
import TodoPromo.Proofs.Promo.Operations
import TodoPromo.Proofs.Time.Months
import TodoPromo.Random.Scripted

/-! # The windows that are generated

The window of a sample code begins at midnight, as many days after today as were drawn for it, and ends on
the day six months later, which is 181 to 184 days after that; only where that day is beyond the calendar
does it end on the last day there is (`Sample.Opens`). So the windows follow from the days that are drawn,
a later one never ends earlier, and there are no codes exactly if one of the windows would begin beyond
the calendar (`Sample.generated_windows`). -/

namespace TodoPromo.Sample

open Time (Date Instant lastDay)

variable {ρ : Type} [NumberSource ρ]

/-- The days until the windows of so many codes begin, in the order in which they are drawn. The discount
of a code is drawn before the day of the next one. -/
def startsDrawn : Nat → ρ → List Nat
  | 0, _ => []
  | n + 1, source =>
    let (days, source) := NumberSource.below startDays source
    let (_, source) := NumberSource.fraction PromoCode.discountBound source
    days :: startsDrawn n source

/-- The window of an unused code for which a number of days from today was drawn. -/
structure Opens (today : Int) (days : Nat) (code : PromoCode) : Prop where
  unused : code.used = false
  from_midnight : code.validFrom.IsMidnight
  from_day : code.validFrom.day = today + days
  to_midnight : code.validTo.IsMidnight
  to_day : ∃ day, Date.MonthsAfter 6 (Date.ofDay code.validFrom.day) (Date.ofDay day) ∧
    code.validFrom.day + 181 ≤ day ∧ day ≤ code.validFrom.day + 184 ∧ code.validTo.day = min day lastDay
  to_eq : code.validTo = code.validFrom.monthsLater validMonths

theorem opens_fresh (id : String) {today : Int} {days : Nat} {start : Instant}
    (hmidnight : start.IsMidnight) (hday : start.day = today + days) (discount : Single) :
    Opens today days (PromoCode.fresh id start (start.monthsLater validMonths) discount) := by
  obtain ⟨hend, hend_day⟩ := start.monthsLater_spec validMonths
  have hexists := Date.exists?_ofDay start.day
  have hafter := Date.addMonths_monthsAfter validMonths (Date.exists?_iff.mp hexists).1
  constructor
  · rfl
  · exact ⟨rfl, rfl⟩
  · exact hday
  · exact ⟨rfl, rfl⟩
  · obtain ⟨hleast, hgreatest⟩ := Date.toDay_addMonths_six start.day
    refine ⟨((Date.ofDay start.day).addMonths validMonths).toDay, ?_, hleast, hgreatest, hend_day⟩
    rw [Date.ofDay_toDay (hafter.exists? hexists)]
    exact hafter
  · show (start.monthsLater validMonths).startOfDay = start.startOfDay.monthsLater validMonths
    rw [Instant.startOfDay_of_midnight hend, Instant.startOfDay_of_midnight hmidnight]

/-- What generating one code comes to: nothing if its window would begin beyond the calendar, and else a
code, whose discount is drawn after the day. -/
theorem generateOne_cases (id : String) (now : Instant) (source : ρ) :
    let (days, source') := NumberSource.below startDays source
    lastDay < now.day + days ∧ generateOne id now source = (none, source') ∨
      now.day + days ≤ lastDay ∧
        let (discount, source'') := NumberSource.fraction PromoCode.discountBound source'
        ∃ code, generateOne id now source = (some code, source'') ∧
          code.code = id ∧ code.discount = discount ∧ Opens now.day days code := by
  have hfirst := now.firstDay_le
  unfold generateOne Instant.daysLater?
  generalize NumberSource.below startDays source = drawn
  obtain ⟨days, source'⟩ := drawn
  show lastDay < now.day + days ∧ _ ∨ now.day + days ≤ lastDay ∧ _
  rcases Int.lt_or_le lastDay (now.day + days) with hbeyond | hwithin
  · have hnone : Instant.midnight? (now.startOfDay.day + days) = none :=
      dif_neg fun h => absurd h.2 (Int.not_le.mpr hbeyond)
    refine .inl ⟨hbeyond, ?_⟩
    simp only [hnone]
  · have hrange : Time.firstDay ≤ now.startOfDay.day + days ∧ now.startOfDay.day + days ≤ lastDay :=
      ⟨Int.le_trans hfirst (Int.le_add_of_nonneg_right (Int.natCast_nonneg days)), hwithin⟩
    obtain ⟨start, hstart, hday, hmidnight⟩ := Instant.midnight?_eq_some hrange
    refine .inr ⟨hwithin, _, ?_, rfl, rfl, opens_fresh id hmidnight hday _⟩
    simp only [hstart]
    rfl

theorem generate_cases (ids : List String) (now : Instant) (source : ρ) :
    ((generate now ids source).1 = none ∧
        ∃ days ∈ startsDrawn ids.length source, lastDay < now.day + days) ∨
      (∀ days ∈ startsDrawn ids.length source, now.day + days ≤ lastDay) ∧
        ∃ codes, (generate now ids source).1 = some codes ∧
          List.Forall₂ (Opens now.day) (startsDrawn ids.length source) codes := by
  induction ids generalizing source with
  | nil => exact .inr ⟨List.forall_mem_nil _, [], rfl, .nil⟩
  | cons id ids ih =>
      have hone := generateOne_cases id now source
      unfold generate
      rw [List.length_cons, startsDrawn]
      generalize NumberSource.below startDays source = drawn at *
      obtain ⟨days, source'⟩ := drawn
      dsimp only at hone ⊢
      obtain ⟨hbeyond, hnone⟩ | ⟨hwithin, code, hcode, -, -, hopens⟩ := hone
      · rw [hnone]
        exact .inl ⟨rfl, days, List.mem_cons_self, hbeyond⟩
      · rw [hcode]
        generalize NumberSource.fraction PromoCode.discountBound source' = drawn' at *
        obtain ⟨discount, source''⟩ := drawn'
        dsimp only
        obtain ⟨hnone, days', hdays', hbeyond⟩ | ⟨hrest, codes, hcodes, hwindows⟩ := ih source''
        · rw [hnone]
          exact .inl ⟨rfl, days', List.mem_cons_of_mem days hdays', hbeyond⟩
        · rw [hcodes]
          exact .inr ⟨List.forall_mem_cons.mpr ⟨hwithin, hrest⟩, _, rfl, .cons hopens hwindows⟩

/-- However the days are drawn, below their bound, there are no codes exactly if one of the windows would
begin beyond the calendar. Otherwise there is an unused code for each identifier, and the window of each
is the one of its day: it begins within thirty days from today and ends six months later. How it ends
hangs on its beginning alone, and a window that begins later does not end earlier. -/
theorem generated_windows (now : Instant) (ids : List String) {source : ρ}
    (hbelow : ∀ days ∈ startsDrawn ids.length source, days < startDays) :
    ((generate now ids source).1 = none ↔
        ∃ days ∈ startsDrawn ids.length source, lastDay < now.day + days) ∧
      (∀ codes, (generate now ids source).1 = some codes →
        codes.map PromoCode.code = ids ∧ codes.length = ids.length ∧
          List.Forall₂ (fun days code => Opens now.day days code ∧ now.day ≤ code.validFrom.day ∧
            code.validFrom.day ≤ now.day + 29) (startsDrawn ids.length source) codes) ∧
      ∀ a b : Instant, a ≤ b → a.monthsLater validMonths ≤ b.monthsLater validMonths := by
  refine ⟨?_, fun codes hcodes => ?_, fun a b => Instant.monthsLater_mono validMonths⟩
  · obtain ⟨hnone, hbeyond⟩ | ⟨hwithin, codes, hcodes, -⟩ := generate_cases ids now source
    · exact iff_of_true hnone hbeyond
    · rw [hcodes]
      refine iff_of_false (Option.some_ne_none codes) ?_
      rintro ⟨days, hdays, hbeyond⟩
      have hle := hwithin days hdays
      omega
  · have hgenerated : generate now ids source = (some codes, (generate now ids source).2) :=
      Prod.ext hcodes rfl
    have hids := Promo.codes_of_generate hgenerated
    obtain ⟨hnone, -⟩ | ⟨-, codes', hcodes', hwindows⟩ := generate_cases ids now source
    · rw [hcodes] at hnone
      cases hnone
    obtain rfl := Option.some.inj (hcodes.symm.trans hcodes')
    refine ⟨hids, by rw [← hids, List.length_map], ?_⟩
    apply ((List.forall₂_and_left _ _).mpr ⟨hbelow, hwindows⟩).imp
    intro days code ⟨hlt, hopens⟩
    have hday := hopens.from_day
    have hlt' : days < 30 := hlt
    exact ⟨hopens, by omega, by omega⟩

theorem generated_windows_february :
    let now : Instant := ⟨21061, 86399, 1999999999, by decide, by decide, by decide, by decide, by decide⟩
    let last : Instant := ⟨lastDay - 10, 0, 0, by decide, by decide, by decide, by decide, by decide⟩
    let ids := ["a", "b"]
    let source : Scripted := ⟨[0, 29], [], []⟩
    startsDrawn ids.length source = [0, 29] ∧ (∀ days ∈ startsDrawn ids.length source, days < startDays) ∧
      (∃ codes, (generate now ids source).1 = some codes ∧
        codes.map (fun code => Date.ofDay code.validTo.day) = [⟨2028, 2, 29⟩, ⟨2028, 3, 29⟩] ∧
        List.Forall₂ (fun days code => Opens now.day days code ∧ now.day ≤ code.validFrom.day ∧
          code.validFrom.day ≤ now.day + 29) [0, 29] codes) ∧
      (generate last ids source).1 = none := by
  intro now last ids source
  have hdrawn : startsDrawn ids.length source = [0, 29] := by decide
  have hbelow : ∀ days ∈ startsDrawn ids.length source, days < startDays := by decide
  refine ⟨hdrawn, hbelow, ?_, ?_⟩
  · obtain ⟨-, hwindows, -⟩ := generated_windows now ids hbelow
    have hends : (generate now ids source).1.map
        (fun codes => codes.map fun code => Date.ofDay code.validTo.day) =
          some [⟨2028, 2, 29⟩, ⟨2028, 3, 29⟩] := by decide +kernel
    obtain ⟨codes, hcodes, hends⟩ := Option.map_eq_some_iff.mp hends
    obtain ⟨-, -, hopens⟩ := hwindows codes hcodes
    exact ⟨codes, hcodes, hends, hdrawn ▸ hopens⟩
  · apply (generated_windows last ids hbelow).1.mpr
    rw [hdrawn]
    exact ⟨29, by decide, by decide⟩

end TodoPromo.Sample
