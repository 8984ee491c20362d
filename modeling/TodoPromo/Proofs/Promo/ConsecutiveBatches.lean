import TodoPromo.Proofs.Promo.SeededWindows

/-! # Batches from one source

What sample codes offer is decided by the day and by the numbers that are drawn for them: a day and a
discount for each code, in this order, whatever the identifiers are (`Sample.exists_generated`). So two
batches that are generated from a source one after the other offer what a single batch of both sizes
offers, and leave the source where that leaves it (`Sample.generated_in_parts`). A source whose draws are
overheard (`Overheard`) shows that no other numbers are drawn. -/

namespace TodoPromo

open Time (Instant lastDay)

/-- What a code offers, whatever its identifier is. -/
structure Terms where
  validFrom : Instant
  validTo : Instant
  discount : Single
  deriving DecidableEq

def PromoCode.terms (c : PromoCode) : Terms := ⟨c.validFrom, c.validTo, c.discount⟩

/-- The terms of a code for which a number of days from today and a discount were drawn. -/
structure Terms.Drawn (today : Int) (numbers : Nat × Single) (terms : Terms) : Prop where
  from_midnight : terms.validFrom.IsMidnight
  from_day : terms.validFrom.day = today + numbers.1
  to_eq : terms.validTo = terms.validFrom.monthsLater Sample.validMonths
  discount_eq : terms.discount = numbers.2

theorem Terms.drawn_unique (today : Int) : Relator.RightUnique (Terms.Drawn today) := by
  intro numbers terms terms' h h'
  have hfrom : terms.validFrom = terms'.validFrom :=
    Instant.eq_of_midnights h.from_midnight h'.from_midnight (h.from_day.trans h'.from_day.symm)
  have hto : terms.validTo = terms'.validTo := by rw [h.to_eq, h'.to_eq, hfrom]
  have hdiscount := h.discount_eq.trans h'.discount_eq.symm
  cases terms
  cases terms'
  simp_all

/-! ### Overheard sources -/

/-- A source, and the draws that were made from it so far. -/
structure Overheard (ρ : Type) where
  source : ρ
  draws : List Draw

variable {ρ σ : Type} [NumberSource ρ] [KeyValue σ]

instance : NumberSource (Overheard ρ) where
  below bound s :=
    let (n, source) := NumberSource.below bound s.source
    (n, ⟨source, s.draws ++ [.below bound]⟩)
  fraction bound s :=
    let (x, source) := NumberSource.fraction bound s.source
    (x, ⟨source, s.draws ++ [.fraction bound]⟩)

namespace Sample

theorem drawn_overheard (draws log : List Draw) (source : ρ) :
    drawn draws (⟨source, log⟩ : Overheard ρ) = ⟨drawn draws source, log ++ draws⟩ := by
  induction draws generalizing source log with
  | nil => rw [List.append_nil, drawn, drawn]
  | cons draw draws ih =>
      rw [List.append_cons]
      cases draw with
      | below bound => exact ih _ _
      | fraction bound => exact ih _ _

theorem generateOne_overheard (id : String) (now : Instant) (source : ρ) (log : List Draw) :
    ∃ log', generateOne id now (⟨source, log⟩ : Overheard ρ) =
      ((generateOne id now source).1, ⟨(generateOne id now source).2, log'⟩) := by
  unfold generateOne
  generalize hdrawn : NumberSource.below startDays source = days
  have hover : NumberSource.below startDays (⟨source, log⟩ : Overheard ρ) =
      (days.1, ⟨days.2, log ++ [.below startDays]⟩) := by
    rw [← hdrawn]
    rfl
  rw [hover]
  dsimp only
  cases now.startOfDay.daysLater? days.1 with
  | none => exact ⟨_, rfl⟩
  | some start => exact ⟨_, rfl⟩

theorem codes_overheard (ids : List String) (now : Instant) (source : ρ) (log : List Draw) :
    (generate now ids (⟨source, log⟩ : Overheard ρ)).1 = (generate now ids source).1 := by
  induction ids generalizing source log with
  | nil => rfl
  | cons id ids ih =>
      obtain ⟨log', hone⟩ := generateOne_overheard id now source log
      unfold generate
      rw [hone]
      generalize generateOne id now source = one
      obtain ⟨code?, source'⟩ := one
      cases code? with
      | none => rfl
      | some code => exact congrArg (Option.map (code :: ·)) (ih source' log')

/-! ### The numbers of a batch -/

/-- The draws for so many codes: for each the days until its window begins, and then its discount. -/
def batchDraws : Nat → List Draw
  | 0 => []
  | n + 1 => .below startDays :: .fraction PromoCode.discountBound :: batchDraws n

/-- The days and the discounts that are drawn for so many codes. -/
def numbersDrawn : Nat → ρ → List (Nat × Single)
  | 0, _ => []
  | n + 1, source =>
    let (days, source) := NumberSource.below startDays source
    let (discount, source) := NumberSource.fraction PromoCode.discountBound source
    (days, discount) :: numbersDrawn n source

theorem startsDrawn_eq_map (n : Nat) (source : ρ) :
    startsDrawn n source = (numbersDrawn n source).map Prod.fst := by
  induction n generalizing source with
  | zero => rfl
  | succ n ih => exact congrArg _ (ih _)

theorem batchDraws_add (n m : Nat) : batchDraws (n + m) = batchDraws n ++ batchDraws m := by
  induction n with
  | zero => rw [Nat.zero_add, batchDraws, List.nil_append]
  | succ n ih => rw [Nat.succ_add, batchDraws, batchDraws, ih, List.cons_append, List.cons_append]

theorem numbersDrawn_add (n m : Nat) (source : ρ) :
    numbersDrawn (n + m) source =
      numbersDrawn n source ++ numbersDrawn m (drawn (batchDraws n) source) := by
  induction n generalizing source with
  | zero => rw [Nat.zero_add, numbersDrawn, List.nil_append, batchDraws, drawn]
  | succ n ih =>
      rw [Nat.succ_add]
      exact congrArg _ (ih _)

/-- If all windows begin within the calendar, a batch takes its draws from the source and no others, and
the numbers that are drawn decide what its codes offer. -/
theorem exists_generated {ids : List String} {now : Instant} {source : ρ}
    (h : ∀ days ∈ startsDrawn ids.length source, now.day + days ≤ lastDay) :
    ∃ codes, generate now ids source = (some codes, drawn (batchDraws ids.length) source) ∧
      List.Forall₂ (Terms.Drawn now.day) (numbersDrawn ids.length source) (codes.map PromoCode.terms) := by
  induction ids generalizing source with
  | nil => exact ⟨[], rfl, .nil⟩
  | cons id ids ih =>
      rw [List.length_cons, startsDrawn, List.forall_mem_cons] at h
      obtain ⟨hbeyond, -⟩ | ⟨-, code, hone, -, hdiscount, hopens⟩ := generateOne_cases id now source
      · exact absurd h.1 (Int.not_le.mpr hbeyond)
      · obtain ⟨codes, hrest, hterms⟩ := ih h.2
        refine ⟨code :: codes, ?_, .cons ?_ hterms⟩
        · change generateOne id now source = (some code,
            (NumberSource.fraction _ (NumberSource.below startDays source).2).2) at hone
          unfold generate
          simp only [hone, hrest]
          rfl
        · exact ⟨hopens.from_midnight, hopens.from_day, hopens.to_eq, hdiscount⟩

theorem startsDrawn_overheard (n : Nat) (source : ρ) (log : List Draw) :
    startsDrawn n (⟨source, log⟩ : Overheard ρ) = startsDrawn n source := by
  induction n generalizing source log with
  | zero => rfl
  | succ n ih => exact congrArg _ (ih _ _)

theorem generate_overheard {ids : List String} {now : Instant} {source source' : ρ}
    (h : ∀ days ∈ startsDrawn ids.length source, now.day + days ≤ lastDay) {codes : List PromoCode}
    (hcodes : generate now ids source = (some codes, source')) (log : List Draw) :
    generate now ids (⟨source, log⟩ : Overheard ρ) =
      (some codes, ⟨source', log ++ batchDraws ids.length⟩) := by
  obtain ⟨same, hsame, -⟩ := exists_generated h
  rw [← startsDrawn_overheard _ source log] at h
  obtain ⟨heard, hheard, -⟩ := exists_generated h
  have hfirst := codes_overheard ids now source log
  rw [hheard, hcodes] at hfirst
  rw [hheard, drawn_overheard, ← Option.some.inj hfirst, (Prod.mk.inj (hcodes.symm.trans hsame)).2]

/-- Batches of the same size from the same source on the same day offer the same, whatever the identifiers
and the times of day are. -/
theorem generate_again {ids ids' : List String} {now now' : Instant} {source : ρ}
    (hday : now'.day = now.day) (hlength : ids'.length = ids.length)
    (h : ∀ days ∈ startsDrawn ids.length source, now.day + days ≤ lastDay) {codes : List PromoCode}
    {source' : ρ} (hcodes : generate now ids source = (some codes, source')) :
    ∃ codes', generate now' ids' source = (some codes', source') ∧
      codes'.map PromoCode.terms = codes.map PromoCode.terms := by
  obtain ⟨same, hsame, hterms⟩ := exists_generated h
  rw [← hlength, ← hday] at h
  obtain ⟨codes', hcodes', hterms'⟩ := exists_generated h
  obtain ⟨hcodes₁, rfl⟩ := Prod.mk.inj (hcodes.symm.trans hsame)
  obtain rfl := Option.some.inj hcodes₁
  rw [hlength] at hcodes' hterms'
  rw [hday] at hterms'
  exact ⟨codes', hcodes', List.right_unique_forall₂' (Terms.drawn_unique now.day) hterms' hterms⟩

/-- Codes are generated in two batches, one after the other from the same source, and at once, at any three
times of the same day, and none of the windows begins beyond the calendar. Then the two batches together
offer what the codes generated at once offer, in the same order, and the source is the same in the end. A
batch draws a day and then a discount for each of its codes, and nothing else, so another batch of the
same size offers the same again; and to store the codes draws nothing more. -/
theorem generated_in_parts {now₁ now₂ now : Instant} (hday₁ : now₁.day = now.day)
    (hday₂ : now₂.day = now.day) (source : ρ) {ids₁ ids₂ ids : List String}
    (hlength : ids.length = ids₁.length + ids₂.length)
    (hwithin : ∀ days ∈ startsDrawn ids.length source, now.day + days ≤ lastDay) :
    ∃ first second whole middle final,
      generate now₁ ids₁ source = (some first, middle) ∧
      generate now₂ ids₂ middle = (some second, final) ∧
      generate now ids source = (some whole, final) ∧
      first.map PromoCode.terms ++ second.map PromoCode.terms = whole.map PromoCode.terms ∧
      (∀ log,
        generate now₁ ids₁ (⟨source, log⟩ : Overheard ρ) =
            (some first, ⟨middle, log ++ batchDraws ids₁.length⟩) ∧
          generate now₂ ids₂ (⟨middle, log⟩ : Overheard ρ) =
            (some second, ⟨final, log ++ batchDraws ids₂.length⟩) ∧
          generate now ids (⟨source, log⟩ : Overheard ρ) =
            (some whole, ⟨final, log ++ batchDraws ids.length⟩)) ∧
      (∀ now' ids', now'.day = now.day → ids'.length = ids.length →
        ∃ again, generate now' ids' source = (some again, final) ∧
          again.map PromoCode.terms = whole.map PromoCode.terms) ∧
      ∀ store : σ, (Promo.seed now ids source store).1.2 = final := by
  have hparts : ∀ numbers ∈ numbersDrawn ids₁.length source ++
      numbersDrawn ids₂.length (drawn (batchDraws ids₁.length) source), now.day + numbers.1 ≤ lastDay := by
    rw [← numbersDrawn_add, ← hlength]
    rw [startsDrawn_eq_map, List.forall_mem_map] at hwithin
    exact hwithin
  obtain ⟨hnumbers₁, hnumbers₂⟩ := List.forall_mem_append.mp hparts
  have hwithin₁ : ∀ days ∈ startsDrawn ids₁.length source, now₁.day + days ≤ lastDay := by
    rw [startsDrawn_eq_map, List.forall_mem_map, hday₁]
    exact hnumbers₁
  have hwithin₂ : ∀ days ∈ startsDrawn ids₂.length (drawn (batchDraws ids₁.length) source),
      now₂.day + days ≤ lastDay := by
    rw [startsDrawn_eq_map, List.forall_mem_map, hday₂]
    exact hnumbers₂
  obtain ⟨first, hfirst, hterms₁⟩ := exists_generated hwithin₁
  obtain ⟨second, hsecond, hterms₂⟩ := exists_generated hwithin₂
  obtain ⟨whole, hwhole, hterms⟩ := exists_generated hwithin
  rw [← drawn_append, ← batchDraws_add, ← hlength] at hsecond
  refine ⟨first, second, whole, _, _, hfirst, hsecond, hwhole, ?_, fun log => ⟨?_, ?_, ?_⟩, ?_, ?_⟩
  · -- both lists of terms are what the same numbers stand for
    rw [hday₁] at hterms₁
    rw [hday₂] at hterms₂
    rw [hlength, numbersDrawn_add] at hterms
    exact List.right_unique_forall₂' (Terms.drawn_unique now.day)
      (List.rel_append hterms₁ hterms₂) hterms
  · exact generate_overheard hwithin₁ hfirst log
  · exact generate_overheard hwithin₂ hsecond log
  · exact generate_overheard hwithin hwhole log
  · intro now' ids' hday' hlength'
    exact generate_again hday' hlength' hwithin hwhole
  · intro store
    rw [Promo.seed_generated hwhole]

/-- One code and then two, drawn from a seed at midnight and at noon, and three codes drawn from the same
seed in a leap second at the end of the day. -/
theorem generated_in_parts_seeded :
    let midnight : Instant := ⟨19782, 0, 0, by decide, by decide, by decide, by decide, by decide⟩
    let noon : Instant := ⟨19782, 43200, 0, by decide, by decide, by decide, by decide, by decide⟩
    let last : Instant := ⟨19782, 86399, 1999999999, by decide, by decide, by decide, by decide, by decide⟩
    let source := Seeded.ofSeed 42
    (∀ days ∈ startsDrawn 3 source, last.day + days ≤ lastDay) ∧
      ∃ first second whole middle final,
        generate midnight ["a"] source = (some first, middle) ∧
        generate noon ["b", "c"] middle = (some second, final) ∧
        generate last ["a", "b", "c"] source = (some whole, final) ∧
        first.map PromoCode.terms ++ second.map PromoCode.terms = whole.map PromoCode.terms := by
  intro midnight noon last source
  have hday₁ : midnight.day = last.day := rfl
  have hday₂ : noon.day = last.day := rfl
  have hlength : ["a", "b", "c"].length = ["a"].length + ["b", "c"].length := rfl
  have hwithin : ∀ days ∈ startsDrawn 3 source, last.day + days ≤ lastDay := by decide +kernel
  obtain ⟨first, second, whole, middle, final, hfirst, hsecond, hwhole, hterms, -⟩ :=
    generated_in_parts (σ := Contents) hday₁ hday₂ source hlength hwithin
  exact ⟨hwithin, first, second, whole, middle, final, hfirst, hsecond, hwhole, hterms⟩

end Sample
end TodoPromo
