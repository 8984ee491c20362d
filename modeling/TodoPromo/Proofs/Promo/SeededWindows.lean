import TodoPromo.Proofs.Promo.GeneratedWindows
import TodoPromo.Proofs.Promo.LifeCycle
import TodoPromo.Proofs.Text.Ascii
import TodoPromo.Random.Seeded

/-! # The windows of sample codes

However their windows are drawn, all sample codes can be redeemed in one common interval: none of them
before today, each of them from 29 days up to 181 days after today, and none from 213 days on
(`seeded_windows`). A window begins on one of thirty days (`Sample.generateOne_window`) and lasts six
months, which are 181 to 184 days, or up to the end of the calendar. The codes lie under keys of their
own, since identifiers are in small letters, and what is stored is read back with the same window. -/

namespace TodoPromo

open Time (Instant lastDay)

variable {ρ : Type} [NumberSource ρ]

namespace Sample

/-! ### Drawing a window -/

/-- The source when these numbers were drawn. -/
def drawn : List Draw → ρ → ρ
  | [], source => source
  | .below bound :: draws, source => drawn draws (NumberSource.below bound source).2
  | .fraction bound :: draws, source => drawn draws (NumberSource.fraction bound source).2

/-- Whatever was drawn before, the days stay below their bound and the discounts are finite. -/
structure Fair (source : ρ) : Prop where
  below : ∀ draws, (NumberSource.below startDays (drawn draws source)).1 < startDays
  finite : ∀ draws,
    (NumberSource.fraction PromoCode.discountBound (drawn draws source)).1.isFinite = true

theorem drawn_append (draws draws' : List Draw) (source : ρ) :
    drawn (draws ++ draws') source = drawn draws' (drawn draws source) := by
  induction draws generalizing source with
  | nil => rfl
  | cons draw draws ih =>
      cases draw with
      | below bound => exact ih _
      | fraction bound => exact ih _

theorem Fair.drawn {source : ρ} (h : Fair source) (draws : List Draw) : Fair (drawn draws source) where
  below draws' := by
    rw [← drawn_append]
    exact h.below _
  finite draws' := by
    rw [← drawn_append]
    exact h.finite _

/-- The window of an unused code begins within thirty days from today and ends 181 to 213 days from
today, at midnight. -/
structure Window (today : Int) (code : PromoCode) : Prop where
  unused : code.used = false
  from_midnight : code.validFrom.IsMidnight
  to_midnight : code.validTo.IsMidnight
  from_ge : today ≤ code.validFrom.day
  from_le : code.validFrom.day ≤ today + 29
  to_ge : today + 181 ≤ code.validTo.day
  to_le : code.validTo.day ≤ today + 213

theorem generateOne_window (id : String) {now : Instant} {source : ρ} (hsource : Fair source)
    (hlast : now.day + 210 ≤ lastDay) :
    ∃ code, generateOne id now source =
        (some code, drawn [.below startDays, .fraction PromoCode.discountBound] source) ∧
      Window now.day code ∧ code.discount.isFinite = true := by
  have hdays := hsource.below []
  have hfinite := hsource.finite [.below startDays]
  change (NumberSource.below startDays source).1 < 30 at hdays
  obtain ⟨hbeyond, -⟩ | ⟨-, code, hgenerate, -, hdiscount, hopens⟩ := generateOne_cases id now source
  · change lastDay < now.day + (NumberSource.below startDays source).1 at hbeyond
    omega
  · have hstart : code.validFrom.day = now.day + (NumberSource.below startDays source).1 := hopens.from_day
    obtain ⟨day, -, hleast, hgreatest, hend⟩ := hopens.to_day
    refine ⟨code, hgenerate, ?_, hdiscount ▸ hfinite⟩
    constructor
    · exact hopens.unused
    · exact hopens.from_midnight
    · exact hopens.to_midnight
    · omega
    · omega
    · omega
    · omega

theorem generate_windows (ids : List String) {now : Instant} {source : ρ} (hsource : Fair source)
    (hlast : now.day + 210 ≤ lastDay) :
    ∃ codes source', generate now ids source = (some codes, source') ∧
      ∀ code ∈ codes, Window now.day code ∧ code.discount.isFinite = true := by
  induction ids generalizing source with
  | nil => exact ⟨[], source, rfl, fun code hcode => nomatch hcode⟩
  | cons id ids ih =>
      obtain ⟨code, hone, hwindow⟩ := generateOne_window id hsource hlast
      obtain ⟨codes, source', hrest, hwindows⟩ :=
        ih (hsource.drawn [.below startDays, .fraction PromoCode.discountBound])
      refine ⟨code :: codes, source', ?_, List.forall_mem_cons.mpr ⟨hwindow, hwindows⟩⟩
      unfold generate
      simp only [hone, hrest, Option.map_some]

end Sample

/-! ### Seeded sources -/

namespace Seeded

theorem drawBelow_lt {bound : UInt32} (h : 0 < bound.toNat) (n : Nat) (g : Seeded) :
    (drawBelow bound n g).1.toNat < bound.toNat := by
  induction n generalizing g with
  | zero => exact h
  | succ n ih =>
      unfold drawBelow
      dsimp only
      split
      · have hword : g.next.1.toNat < UInt32.size := g.next.1.toNat_lt
        have hquotient : g.next.1.toNat * bound.toNat / UInt32.size < bound.toNat :=
          Nat.div_lt_of_lt_mul (Nat.mul_lt_mul_of_pos_right hword h)
        have hbound : bound.toNat < UInt32.size := bound.toNat_lt
        rw [UInt32.toNat_ofNat_of_lt' (Nat.lt_trans hquotient hbound)]
        exact hquotient
      · exact ih g.next.2

theorem drawFraction_isFinite {bound : Single} (h : bound.bits ≤ 0x7F800000) (n : Nat) (g : Seeded) :
    (drawFraction bound n g).1.isFinite = true := by
  induction n generalizing g with
  | zero => rfl
  | succ n ih =>
      unfold drawFraction
      dsimp only
      split
      · rename_i hlt
        have hbits := UInt32.lt_iff_toNat_lt.mp hlt
        have hbound : bound.bits.toNat ≤ 0x7F800000 := UInt32.le_iff_toNat_le.mp h
        exact decide_eq_true
          (Nat.lt_of_le_of_lt (Nat.mod_le _ _) (Nat.lt_of_lt_of_le hbits hbound))
      · exact ih g.next.2

/-- A seeded source is fair from the beginning and stays so. -/
theorem fair (g : Seeded) : Sample.Fair g where
  below draws := drawBelow_lt (by decide) attempts _
  finite draws := by
    have h : PromoCode.discountBound.isPositive = true := by decide
    change (((Sample.drawn draws g).fraction? PromoCode.discountBound).getD _).1.isFinite = true
    rw [fraction?, if_pos h]
    exact drawFraction_isFinite (by decide) attempts _

end Seeded

/-! ### The keys of identifiers -/

/-- An identifier consists of hexadecimal digits in small letters and of dashes. -/
def IsIdentifier (id : String) : Prop := ∀ c ∈ id.toList, c ∈ "0123456789abcdef-".toList

instance (id : String) : Decidable (IsIdentifier id) :=
  List.decidableBAll (· ∈ "0123456789abcdef-".toList) id.toList

theorem IsIdentifier.ascii {id : String} (h : IsIdentifier id) :
    ∀ c ∈ id.toList, c.toNat < 128 ∧ c.toLower = c := by
  have hall : ("0123456789abcdef-".toList.all fun c => c.toNat < 128 ∧ c.toLower = c) = true := by
    decide
  exact fun c hc => of_decide_eq_true (List.all_eq_true.mp hall c (h c hc))

theorem IsIdentifier.keyOf {id : String} (h : IsIdentifier id) : PromoCode.keyOf id = id := by
  have hletters : id.toList.map Char.toLower = id.toList :=
    (List.map_congr_left fun c hc => (h.ascii c hc).2).trans (List.map_id id.toList)
  rw [PromoCode.keyOf, Text.lowercase_ascii fun c hc => (h.ascii c hc).1, hletters,
    String.ofList_toList]

theorem IsIdentifier.keyOf_spelling {id input : String} (h : IsIdentifier id)
    (hinput : Text.IsSpelling input id) : PromoCode.keyOf input = id :=
  (Text.lowercase_spelling hinput fun c hc => (h.ascii c hc).1).trans h.keyOf

/-! ### After the redemption -/

section
variable {c : Contents} {code : PromoCode} {today : Int}

/-- The reply says that a presented code is valid. -/
def Reply.accepts : Reply → Bool
  | .promo (.validated (.ok v)) => v.valid
  | .promo (.redeemed (.ok v)) => v.valid
  | _ => false

theorem accepts_rejected (p : Presentation) (why : Rejection) :
    (p.reply (.rejected p.input why)).accepts = false := by
  unfold Presentation.reply Presentation.operation
  split
  · rfl
  · rfl

theorem run_unreadable {key : String} {ps : List Presentation} {e : ActionError}
    (h : (c.stored? key : Except ActionError (Option PromoCode)) = .error e)
    (hkey : ∀ p ∈ ps, PromoCode.keyOf p.input = key) (source : ρ) :
    runPresentations ps c source = (ps.map fun p => p.operation.answered (.error e), (c, source)) := by
  induction ps with
  | nil => rfl
  | cons p ps ih =>
      obtain ⟨now, next, -, hperform⟩ := Operation.perform_input (ρ := ρ) p.input?_operation
      have hps := ih fun q hq => hkey q (by simp [hq])
      have hp := hperform c source
      rw [hkey p (by simp), h] at hp
      unfold runPresentations at hps ⊢
      rw [List.map_cons, run, hp]
      dsimp only
      rw [hps]
      rfl

theorem accepts_failed (op : Operation) (e : ActionError) :
    (op.answered (.error e)).accepts = false := by
  unfold Operation.answered
  split
  · rfl
  · rfl

/-- Where a used code was written, no presentation is accepted any more, even if what was written
cannot be read. -/
theorem never_accepted {key : String} {ps : List Presentation}
    (hget : c.get? key = some (Json.encode code)) (hused : code.used = true)
    (hkey : ∀ p ∈ ps, PromoCode.keyOf p.input = key) (source : ρ) :
    ∀ r ∈ (runPresentations ps c source).1, r.accepts = false := by
  intro r hr
  cases hdecode : (Json.decode (Json.encode code) : Except Json.Failure PromoCode) with
  | error e =>
      rw [run_unreadable (Contents.stored?_of_decode_error hget hdecode) hkey] at hr
      obtain ⟨p, -, rfl⟩ := List.mem_map.mp hr
      exact accepts_failed p.operation _
  | ok d =>
      have hstored := Contents.stored?_of_decode hget hdecode
      rw [run_used hstored ((used_of_decode hdecode).trans hused) hkey] at hr
      obtain ⟨p, -, rfl⟩ := List.mem_map.mp hr
      exact accepts_rejected p .alreadyUsed

/-! ### Windows in common -/

/-- What the windows of sample codes that are drawn on a day have in common, for the code that is stored
in this table. It is presented in any spelling. -/
structure Redeemable (today : Int) (id : String) (discount : Single) (c : Contents) : Prop where
  /-- Before today the code is not active yet. -/
  early : ∀ input, Text.IsSpelling input id → ∀ t : Instant, t.day < today →
    (Promo.validate t input).outcome c = (.ok (.rejected input .notYetActive), c)
  /-- From 29 days up to 181 days after today it is valid. -/
  valid : ∀ input, Text.IsSpelling input id → ∀ t : Instant, today + 29 ≤ t.day → t.day < today + 181 →
    (Promo.validate t input).outcome c = (.ok (.accepted input discount), c)
  /-- From 213 days after today on it is expired. -/
  late : ∀ input, Text.IsSpelling input id → ∀ t : Instant, today + 213 ≤ t.day →
    (Promo.validate t input).outcome c = (.ok (.rejected input .expired), c)
  /-- While it is valid it is redeemed once: after that it is never accepted again, whenever it is
  presented, and it is called used if its discount is a number. -/
  once : ∀ p : Presentation, p.redeeming = true → Text.IsSpelling p.input id →
    today + 29 ≤ p.now.day → p.now.day < today + 181 →
    ∀ ps : List Presentation, (∀ q ∈ ps, Text.IsSpelling q.input id) → ∀ source : ρ,
      ∃ later, (runPresentations (p :: ps) c source).1 =
          p.reply (.accepted p.input discount) :: later ∧
        (∀ r ∈ later, r.accepts = false) ∧
        (discount.isFinite = true →
          later = ps.map fun q => q.reply (.rejected q.input .alreadyUsed))

namespace Sample.Window

theorem withDiscount (h : Window today code) (discount : Single) :
    Window today { code with discount } where
  unused := h.unused
  from_midnight := h.from_midnight
  to_midnight := h.to_midnight
  from_ge := h.from_ge
  from_le := h.from_le
  to_ge := h.to_ge
  to_le := h.to_le

theorem check_early (h : Window today code) {t : Instant} (ht : t.day < today) :
    code.check t = some .notYetActive := by
  have hfrom := h.from_ge
  obtain ⟨hcheck, -⟩ | ⟨hbegun, -⟩ := PromoCode.check_unused h.unused t
  · exact hcheck
  · rw [Instant.midnight_le_iff h.from_midnight] at hbegun
    omega

theorem check_valid (h : Window today code) {t : Instant} (hfrom : today + 29 ≤ t.day)
    (hto : t.day < today + 181) : code.check t = none := by
  have hfrom' := h.from_le
  have hto' := h.to_ge
  obtain ⟨-, hearly⟩ | ⟨-, ⟨-, hover⟩ | ⟨hcheck, -⟩⟩ := PromoCode.check_unused h.unused t
  · rw [Instant.lt_midnight_iff h.from_midnight] at hearly
    omega
  · rw [Instant.midnight_le_iff h.to_midnight] at hover
    omega
  · exact hcheck

theorem check_late (h : Window today code) {t : Instant} (ht : today + 213 ≤ t.day) :
    code.check t = some .expired := by
  have hfrom := h.from_le
  have hto := h.to_le
  refine PromoCode.check_expired h.unused ?_ ?_
  · rw [Instant.midnight_le_iff h.from_midnight]
    omega
  · rw [Instant.midnight_le_iff h.to_midnight]
    omega

theorem redeemable (h : Window today code) {id : String} (hid : IsIdentifier id)
    (hstored : c.stored? id = .ok (some code)) :
    Redeemable (ρ := ρ) today id code.discount c where
  early input hinput t ht := by
    rw [Promo.validate_table (by rw [hid.keyOf_spelling hinput, hstored]), Promo.verdict,
      h.check_early ht]
    rfl
  valid input hinput t hfrom hto := by
    rw [Promo.validate_table (by rw [hid.keyOf_spelling hinput, hstored]), Promo.verdict,
      h.check_valid hfrom hto]
    rfl
  late input hinput t ht := by
    rw [Promo.validate_table (by rw [hid.keyOf_spelling hinput, hstored]), Promo.verdict,
      h.check_late ht]
    rfl
  once p hredeeming hinput hfrom hto ps hps source := by
    have hkey := hid.keyOf_spelling hinput
    have hkeys : ∀ q ∈ ps, PromoCode.keyOf q.input = id := fun q hq => hid.keyOf_spelling (hps q hq)
    obtain ⟨hverdict, hwritten⟩ := p.verdict_of_none (h.check_valid hfrom hto)
    rw [runPresentations_cons (by rw [hkey, hstored]), hverdict, hwritten, if_pos hredeeming, hkey]
    refine ⟨_, rfl, never_accepted (Contents.get?_commit_some c id _) rfl hkeys source, ?_⟩
    intro hfinite
    obtain ⟨d, hd, hused⟩ := stored?_redeemed hfinite c id
    rw [run_used hd hused hkeys]

end Sample.Window

/-- Sample codes with distinct identifiers are all written, and each of them is found as it was
generated, but for its discount. -/
theorem stored?_storing {codes : List PromoCode} {ids : List String}
    (hcodes : codes.map PromoCode.code = ids) (hids : ids.Nodup) (hid : ∀ id ∈ ids, IsIdentifier id)
    (hcode : code ∈ codes) (hfinite : code.discount.isFinite = true) (c : Contents) :
    ∃ discount, (c.storing (Promo.entriesOf codes)).stored? code.code =
      .ok (some { code with discount }) := by
  subst hcodes
  have hkey : ∀ code ∈ codes, code.key = code.code := fun code hcode =>
    (hid code.code (List.mem_map_of_mem hcode)).keyOf
  have hkeys : (codes.map PromoCode.key).Nodup := (List.map_congr_left hkey).symm ▸ hids
  exact hkey code hcode ▸ Promo.stored?_storing hkeys hcode hfinite c

/-- Whatever the store held, the sample codes that are drawn from a fair source are all stored, and all
of them can be redeemed in a common interval, as long as the windows stay within the calendar. -/
theorem seeded_windows {now : Instant} {ids : List String} {source : ρ} (hids : ids.Nodup)
    (hid : ∀ id ∈ ids, IsIdentifier id) (hsource : Sample.Fair source)
    (hlast : ((Time.Date.ofDay (now.day + 29)).addMonths 6).toDay ≤ lastDay) (c : Contents) :
    ∃ codes source' c', Promo.seed now ids source c = ((.ok codes, source'), c') ∧
      codes.map PromoCode.code = ids ∧
      ∀ code ∈ codes, ∃ discount, Redeemable (ρ := ρ) now.day code.code discount c' := by
  have hlast' : now.day + 210 ≤ lastDay := by
    have hsix := (Time.Date.toDay_addMonths_six (now.day + 29)).1
    omega
  obtain ⟨codes, source', hgenerate, hwindows⟩ := Sample.generate_windows ids hsource hlast'
  have hcodes := Promo.codes_of_generate hgenerate
  refine ⟨codes, source', c.storing (Promo.entriesOf codes), ?_, hcodes, fun code hcode => ?_⟩
  · rw [Promo.seed_table, hgenerate]
  · obtain ⟨hwindow, hfinite⟩ := hwindows code hcode
    obtain ⟨discount, hstored⟩ := stored?_storing hcodes hids hid hcode hfinite c
    have hid' := hid code.code (hcodes ▸ List.mem_map_of_mem hcode)
    exact ⟨discount, (hwindow.withDiscount discount).redeemable hid' hstored⟩

/-- Two codes that are seeded from a seeded source in the last days of a leap year's February. -/
theorem seeded_windows_february :
    let now : Instant := ⟨19780, 43200, 0, by decide, by decide, by decide, by decide, by decide⟩
    let ids := ["67e55044-10b1-426f-9247-bb680e5fe0c8", "a1a2a3a4-b1b2-c1c2-d1d2-d3d4d5d6d7d8"]
    ∃ codes source' c', Promo.seed now ids (Seeded.ofSeed 42) Table.empty = ((.ok codes, source'), c') ∧
      codes.map PromoCode.code = ids ∧
      ∀ code ∈ codes, ∃ discount, Redeemable (ρ := Seeded) now.day code.code discount c' := by
  intro now ids
  have hid : ∀ id ∈ ids, IsIdentifier id := by decide
  have hlast : ((Time.Date.ofDay (now.day + 29)).addMonths 6).toDay ≤ lastDay := by decide +kernel
  exact seeded_windows (by decide) hid (Seeded.ofSeed 42).fair hlast Table.empty

end
end TodoPromo
