import TodoPromo.Proofs.Services.Tables
import TodoPromo.Proofs.Time.Instants
import TodoPromo.Random.Scripted

/-! # The life of a code

While the clock does not go back, a code is first not active yet, then open, and in the end either
expired or used, whichever comes first, and whatever its window (`life_cycle`). What is under the key of
the code is the code itself until the first redemption that is accepted, and a used code from then on
(`Contents.Holds`); on the code itself the verdict depends on the time alone, and it can only go from one
of these phases to a later one. -/

namespace TodoPromo

open Time (Instant)

/-! ### Presented codes -/

/-- A code that is presented at a time, to be redeemed or only to be validated. -/
structure Presentation where
  now : Instant
  input : String
  redeeming : Bool

namespace Presentation

/-- The call that validates the code, and the call that redeems it. -/
def validation (p : Presentation) : Operation := .promo (.validate p.now p.input)

def redemption (p : Presentation) : Operation := .promo (.redeem p.now p.input)

def operation (p : Presentation) : Operation := if p.redeeming then p.redemption else p.validation

theorem input?_operation (p : Presentation) : p.operation.input? = some p.input := by
  unfold operation
  split
  · rfl
  · rfl

/-- An answer in the form of the call. -/
def reply (p : Presentation) (v : Validation) : Reply := p.operation.answered (.ok v)

/-- The answer where this code is stored. -/
def verdict (p : Presentation) (code : PromoCode) : Validation :=
  Promo.judged p.input (Promo.verdict p.now (some code))

/-- What the presentation writes in place of this code, if anything. -/
def written (p : Presentation) (code : PromoCode) : Option PromoCode :=
  if p.redeeming ∧ code.check p.now = none then some { code with used := true } else none

variable {ρ : Type} [NumberSource ρ] {c : Contents} {code : PromoCode}

theorem perform_validation (p : Presentation)
    (h : c.stored? (PromoCode.keyOf p.input) = .ok (some code)) (source : ρ) :
    p.validation.perform (c, source) = (.promo (.validated (.ok (p.verdict code))), (c, source)) := by
  change (Reply.promo (onStore (Promo.validate p.now p.input) .validated (c, source)).1,
    (onStore (Promo.validate p.now p.input) PromoReply.validated (c, source)).2) = _
  rw [Promo.validate_eq_transact, onStore_table, h]
  rfl

theorem perform_redemption (p : Presentation)
    (h : c.stored? (PromoCode.keyOf p.input) = .ok (some code)) (source : ρ) :
    p.redemption.perform (c, source) =
      (.promo (.redeemed (.ok (p.verdict code).toRedemption)),
        (c.commit (PromoCode.keyOf p.input)
          (if code.check p.now = none then some { code with used := true } else none), source)) := by
  change (Reply.promo (onStore (Promo.redeem p.now p.input) .redeemed (c, source)).1,
    (onStore (Promo.redeem p.now p.input) PromoReply.redeemed (c, source)).2) = _
  rw [Promo.redeem_eq_transact, onStore_table, h]
  unfold Promo.redeemed
  have hwritten : (Promo.verdict p.now (some code)).toOption.map
      (fun d => { d with used := true }) =
        if code.check p.now = none then some { code with used := true } else none := by
    unfold Promo.verdict
    cases hcheck : code.check p.now with
    | some why => simp [hcheck, Except.toOption]
    | none => simp [hcheck, Except.toOption]
  dsimp only
  rw [hwritten]
  rfl

theorem perform (p : Presentation) (h : c.stored? (PromoCode.keyOf p.input) = .ok (some code))
    (source : ρ) : p.operation.perform (c, source) =
      (p.reply (p.verdict code), (c.commit (PromoCode.keyOf p.input) (p.written code), source)) := by
  unfold operation reply operation written
  cases hredeeming : p.redeeming with
  | false =>
      simp only [Bool.false_eq_true, if_false, false_and]
      exact p.perform_validation h source
  | true =>
      simp only [if_true, true_and]
      exact p.perform_redemption h source

/-! ### Verdicts -/

theorem verdict_of_some (p : Presentation) {why : Rejection} (h : code.check p.now = some why) :
    p.verdict code = .rejected p.input why ∧ p.written code = none := by
  refine ⟨Promo.judged_of_check h, if_neg fun hnone => ?_⟩
  rw [h] at hnone
  exact nomatch hnone.2

theorem verdict_of_none (p : Presentation) (h : code.check p.now = none) :
    p.verdict code = .accepted p.input code.discount ∧
      p.written code = if p.redeeming then some { code with used := true } else none := by
  unfold verdict written Promo.verdict
  simp only [h, and_true]
  rfl

end Presentation

/-! ### One presentation after another -/

namespace Contents

/-- Under the key is this code, or one that is used. -/
def Holds (c : Contents) (key : String) (code : PromoCode) : Prop :=
  ∃ d : PromoCode, c.stored? key = .ok (some d) ∧ (d = code ∨ d.used = true)

end Contents

section
variable {ρ : Type} [NumberSource ρ] {c : Contents} {key : String} {code : PromoCode}
  {ps : List Presentation}

/-- The replies to codes presented one after another, and the state after them. -/
def runPresentations (ps : List Presentation) (c : Contents) (source : ρ) :
    List Reply × (Contents × ρ) :=
  run (ps.map Presentation.operation) (c, source)

theorem runPresentations_cons {p : Presentation} {code : PromoCode}
    (h : c.stored? (PromoCode.keyOf p.input) = .ok (some code)) (ps : List Presentation) (source : ρ) :
    runPresentations (p :: ps) c source =
      (p.reply (p.verdict code) ::
          (runPresentations ps (c.commit (PromoCode.keyOf p.input) (p.written code)) source).1,
        (runPresentations ps (c.commit (PromoCode.keyOf p.input) (p.written code)) source).2) := by
  unfold runPresentations
  rw [List.map_cons, run, p.perform h]

theorem run_rejected (h : c.stored? key = .ok (some code)) {why : Rejection}
    (hkey : ∀ p ∈ ps, PromoCode.keyOf p.input = key) (hcheck : ∀ p ∈ ps, code.check p.now = some why)
    (source : ρ) : runPresentations ps c source =
      (ps.map fun p => p.reply (.rejected p.input why), (c, source)) := by
  induction ps with
  | nil => rfl
  | cons p ps ih =>
      have hstored : c.stored? (PromoCode.keyOf p.input) = .ok (some code) := by
        rw [hkey p (by simp), h]
      obtain ⟨hverdict, hwritten⟩ := p.verdict_of_some (hcheck p (by simp))
      have hps := ih (fun p' hp' => hkey p' (by simp [hp'])) fun p' hp' => hcheck p' (by simp [hp'])
      rw [runPresentations_cons hstored, hverdict, hwritten]
      change (_ :: (runPresentations ps c source).1, (runPresentations ps c source).2) = _
      rw [hps]
      rfl

/-- A used code is rejected as such for good. -/
theorem run_used (h : c.stored? key = .ok (some code)) (hused : code.used = true)
    (hkey : ∀ p ∈ ps, PromoCode.keyOf p.input = key) (source : ρ) : runPresentations ps c source =
      (ps.map fun p => p.reply (.rejected p.input .alreadyUsed), (c, source)) :=
  run_rejected h hkey (fun p _ => code.check_used hused p.now) source

theorem stored?_redeemed (hfinite : code.discount.isFinite = true) (c : Contents) (key : String) :
    ∃ d : PromoCode, (c.commit key (some { code with used := true })).stored? key = .ok (some d) ∧
      d.used = true := by
  obtain ⟨discount, hd⟩ := Contents.stored?_of_encode
    (Contents.get?_commit_some c key { code with used := true }) hfinite
  exact ⟨_, hd, rfl⟩

/-- How the phase in which a code is open ends: it is redeemed by the last call of the phase, or by
none and it expires. -/
inductive Ending (opened : List Presentation) : Rejection → Prop where
  | expired (h : ∀ p ∈ opened, p.redeeming = false) : Ending opened .expired
  | redeemed {before : List Presentation} {p : Presentation} (hopened : opened = before ++ [p])
      (hbefore : ∀ q ∈ before, q.redeeming = false) (hp : p.redeeming = true) :
      Ending opened .alreadyUsed

theorem Ending.cons {p : Presentation} {opened : List Presentation} {why : Rejection}
    (h : Ending opened why) (hp : p.redeeming = false) : Ending (p :: opened) why := by
  cases h with
  | expired h => exact .expired (List.forall_mem_cons.mpr ⟨hp, h⟩)
  | redeemed hopened hbefore hlast =>
      exact .redeemed (congrArg (p :: ·) hopened) (List.forall_mem_cons.mpr ⟨hp, hbefore⟩) hlast

/-- The replies to the presentations of a code in its three phases. -/
def phaseReplies (code : PromoCode) (early opened rest : List Presentation) (why : Rejection) :
    List Reply :=
  (early.map fun p => p.reply (.rejected p.input .notYetActive)) ++
    (opened.map fun p => p.reply (.accepted p.input code.discount)) ++
    rest.map fun p => p.reply (.rejected p.input why)

/-- From the beginning of its window on a code is open until it is redeemed or expires. -/
theorem run_begun (h : c.stored? key = .ok (some code)) (hunused : code.used = false)
    (hfinite : code.discount.isFinite = true) (hkey : ∀ p ∈ ps, PromoCode.keyOf p.input = key)
    (hclock : (ps.map Presentation.now).Pairwise (· ≤ ·))
    (hbegun : ∀ p ∈ ps, code.validFrom ≤ p.now) (source : ρ) :
    ∃ opened rest why, ps = opened ++ rest ∧ Ending opened why ∧
      (opened ≠ [] → code.validFrom < code.validTo) ∧
      (runPresentations ps c source).1 = phaseReplies code [] opened rest why := by
  induction ps with
  | nil => exact ⟨[], [], .expired, rfl, .expired (fun p hp => nomatch hp), fun hne => absurd rfl hne, rfl⟩
  | cons p ps ih =>
      have hfrom := hbegun p (by simp)
      have hstored : c.stored? (PromoCode.keyOf p.input) = .ok (some code) := by
        rw [hkey p (by simp), h]
      have hkey' : ∀ q ∈ ps, PromoCode.keyOf q.input = key := fun q hq => hkey q (by simp [hq])
      rw [List.map_cons, List.pairwise_cons] at hclock
      obtain ⟨-, hearly⟩ | ⟨-, ⟨-, hto⟩ | ⟨hcheck, hto⟩⟩ := PromoCode.check_unused hunused p.now
      · exact absurd hearly hfrom
      · -- from the end of the window on it is expired
        have hexpired : ∀ q ∈ p :: ps, code.check q.now = some .expired := by
          intro q hq
          have hnow : p.now ≤ q.now := by
            obtain rfl | hq := List.mem_cons.mp hq
            · exact Instant.le_refl _
            · exact hclock.1 q.now (List.mem_map_of_mem hq)
          exact PromoCode.check_expired hunused (hbegun q hq) (Instant.le_trans hto hnow)
        refine ⟨[], p :: ps, .expired, rfl, .expired (fun q hq => nomatch hq),
          fun hne => absurd rfl hne, ?_⟩
        rw [run_rejected h hkey hexpired]
        rfl
      · obtain ⟨hverdict, hwritten⟩ := p.verdict_of_none hcheck
        rw [runPresentations_cons hstored, hverdict, hwritten]
        cases hredeeming : p.redeeming with
        | true =>
            obtain ⟨d, hd, hused⟩ := stored?_redeemed hfinite c (PromoCode.keyOf p.input)
            have hsame : ∀ q ∈ ps, PromoCode.keyOf q.input = PromoCode.keyOf p.input := by
              intro q hq
              rw [hkey' q hq, hkey p (by simp)]
            have hending : Ending [p] .alreadyUsed :=
              .redeemed (List.nil_append [p]).symm (fun q hq => nomatch hq) hredeeming
            refine ⟨[p], ps, .alreadyUsed, rfl, hending,
              fun _ => Instant.lt_of_le_of_lt hfrom hto, ?_⟩
            dsimp only
            rw [if_pos rfl, run_used hd hused hsame]
            rfl
        | false =>
            obtain ⟨opened, rest, why, hps, hending, -, hreplies⟩ := ih hkey' hclock.2
              fun q hq => hbegun q (by simp [hq])
            refine ⟨p :: opened, rest, why, congrArg (p :: ·) hps, hending.cons hredeeming,
              fun _ => Instant.lt_of_le_of_lt hfrom hto, ?_⟩
            rw [if_neg Bool.false_ne_true]
            change _ :: (runPresentations ps c source).1 = _
            rw [hreplies]
            rfl

/-- A code that is not used is not active yet at first, and then open until it is redeemed or
expires. -/
theorem run_unused (h : c.stored? key = .ok (some code)) (hunused : code.used = false)
    (hfinite : code.discount.isFinite = true) (hkey : ∀ p ∈ ps, PromoCode.keyOf p.input = key)
    (hclock : (ps.map Presentation.now).Pairwise (· ≤ ·)) (source : ρ) :
    ∃ early opened rest why, ps = early ++ opened ++ rest ∧ Ending opened why ∧
      (opened ≠ [] → code.validFrom < code.validTo) ∧
      (runPresentations ps c source).1 = phaseReplies code early opened rest why := by
  induction ps with
  | nil =>
      exact ⟨[], [], [], .expired, rfl, .expired (fun p hp => nomatch hp),
        fun hne => absurd rfl hne, rfl⟩
  | cons p ps ih =>
      obtain ⟨hcheck, -⟩ | ⟨hfrom, -⟩ := PromoCode.check_unused hunused p.now
      · have hstored : c.stored? (PromoCode.keyOf p.input) = .ok (some code) := by
          rw [hkey p (by simp), h]
        rw [List.map_cons, List.pairwise_cons] at hclock
        obtain ⟨early, opened, rest, why, hps, hending, hwindow, hreplies⟩ :=
          ih (fun q hq => hkey q (by simp [hq])) hclock.2
        obtain ⟨hverdict, hwritten⟩ := p.verdict_of_some hcheck
        refine ⟨p :: early, opened, rest, why, congrArg (p :: ·) hps, hending, hwindow, ?_⟩
        rw [runPresentations_cons hstored, hverdict, hwritten]
        change _ :: (runPresentations ps c source).1 = _
        rw [hreplies]
        rfl
      · have hbegun : ∀ q ∈ p :: ps, code.validFrom ≤ q.now := by
          rw [List.map_cons, List.pairwise_cons] at hclock
          refine List.forall_mem_cons.mpr ⟨hfrom, fun q hq => ?_⟩
          exact Instant.le_trans hfrom (hclock.1 q.now (List.mem_map_of_mem hq))
        obtain ⟨opened, rest, why, hps, hending, hwindow, hreplies⟩ :=
          run_begun h hunused hfinite hkey hclock hbegun source
        exact ⟨[], opened, rest, why, hps, hending, hwindow, hreplies⟩

theorem holds_run (hfinite : code.discount.isFinite = true) (h : c.Holds key code)
    (hkey : ∀ p ∈ ps, PromoCode.keyOf p.input = key) (source : ρ) :
    ∃ c', (runPresentations ps c source).2 = (c', source) ∧ c'.Holds key code := by
  induction ps generalizing c with
  | nil => exact ⟨c, rfl, h⟩
  | cons p ps ih =>
      obtain ⟨d, hd, hkept⟩ := h
      have hkey' : ∀ q ∈ ps, PromoCode.keyOf q.input = key := fun q hq => hkey q (by simp [hq])
      obtain rfl := hkey p (by simp)
      have hnext : (c.commit (PromoCode.keyOf p.input) (p.written d)).Holds
          (PromoCode.keyOf p.input) code := by
        cases hcheck : d.check p.now with
        | some why =>
            rw [(p.verdict_of_some hcheck).2]
            exact ⟨d, hd, hkept⟩
        | none =>
            rw [(p.verdict_of_none hcheck).2]
            split
            · obtain rfl | hused := hkept
              · obtain ⟨d', hd', hused⟩ := stored?_redeemed hfinite c (PromoCode.keyOf p.input)
                exact ⟨d', hd', .inr hused⟩
              · rw [d.check_used hused] at hcheck
                cases hcheck
            · exact ⟨d, hd, hkept⟩
      rw [runPresentations_cons hd]
      exact ih hnext hkey'

/-! ### The whole life -/

/-- The phases of a code: used from the start, or not active yet, then open, then closed; and never
open if its window ends before it begins. -/
structure Phases (code : PromoCode) (early opened : List Presentation) (why : Rejection) : Prop where
  closed : code.used = true ∧ early = [] ∧ opened = [] ∧ why = .alreadyUsed ∨
    code.used = false ∧ Ending opened why
  never_open : code.validTo ≤ code.validFrom → opened = []

/-- In a state a code is answered by this validation, and its redemption by the same. -/
structure Answers (code : PromoCode) (p : Presentation) (s : Contents × ρ) (v : Validation) : Prop where
  validated : (p.validation.perform s).1 = .promo (.validated (.ok v))
  redeemed : (p.redemption.perform s).1 = .promo (.redeemed (.ok v.toRedemption))
  echoed : v.code = p.input
  reason : v.reason = "" ↔ v.valid = true
  discount : v.discount = if v.valid then code.discount else Single.zero

theorem Contents.Holds.answers (h : c.Holds key code) {p : Presentation}
    (hkey : PromoCode.keyOf p.input = key) (source : ρ) : ∃ v, Answers code p (c, source) v := by
  obtain ⟨d, hd, hkept⟩ := h
  subst hkey
  have hshape : (p.verdict d).code = p.input ∧
      ((p.verdict d).reason = "" ↔ (p.verdict d).valid = true) ∧
      (p.verdict d).discount = if (p.verdict d).valid then code.discount else Single.zero := by
    cases hcheck : d.check p.now with
    | some why =>
        rw [(p.verdict_of_some hcheck).1]
        have hreason : why.message ≠ "" := by cases why <;> decide
        exact ⟨rfl, ⟨fun h => absurd h hreason, fun h => nomatch h⟩, rfl⟩
    | none =>
        obtain rfl | hused := hkept
        · rw [(p.verdict_of_none hcheck).1]
          exact ⟨rfl, ⟨fun _ => rfl, fun _ => rfl⟩, rfl⟩
        · rw [d.check_used hused] at hcheck
          cases hcheck
  exact ⟨p.verdict d, congrArg Prod.fst (p.perform_validation hd source),
    congrArg Prod.fst (p.perform_redemption hd source), hshape.1, hshape.2.1, hshape.2.2⟩

/-- The life of a code while the clock does not go back, whatever its window is and whether or not it
is used: in a sequence of presentations it is not active yet at first, then open and accepted at its
discount, and in the end expired, or used from right after its first redemption on. At every point of
the sequence a validation and a redemption are answered alike, with the input echoed, with a reason
exactly if the code is not accepted, and with no discount then. -/
theorem life_cycle {bs : Bytes} (hget : c.get? key = some bs) (hcode : Json.decode bs = .ok code)
    (hfinite : code.discount.isFinite = true) (hkey : ∀ p ∈ ps, PromoCode.keyOf p.input = key)
    (hclock : (ps.map Presentation.now).Pairwise (· ≤ ·)) (source : ρ) :
    (∃ early opened rest why, ps = early ++ opened ++ rest ∧ Phases code early opened why ∧
        (runPresentations ps c source).1 = phaseReplies code early opened rest why) ∧
      ∀ before p after, ps = before ++ p :: after →
        ∃ v, Answers code p (runPresentations before c source).2 v := by
  have hstored : c.stored? key = .ok (some code) := Contents.stored?_of_decode hget hcode
  refine ⟨?_, ?_⟩
  · cases hused : code.used with
    | true =>
        refine ⟨[], [], ps, .alreadyUsed, rfl, ⟨.inl ⟨hused, rfl, rfl, rfl⟩, fun _ => rfl⟩, ?_⟩
        rw [run_used hstored hused hkey]
        rfl
    | false =>
        obtain ⟨early, opened, rest, why, hps, hending, hwindow, hreplies⟩ :=
          run_unused hstored hused hfinite hkey hclock source
        refine ⟨early, opened, rest, why, hps, ⟨.inr ⟨hused, hending⟩, fun hinverted => ?_⟩, hreplies⟩
        exact Decidable.byContradiction fun hopened => hinverted (hwindow hopened)
  · rintro before p after rfl
    have hbefore : ∀ q ∈ before, PromoCode.keyOf q.input = key := fun q hq => hkey q (by simp [hq])
    obtain ⟨c', hrun, hholds⟩ := holds_run hfinite ⟨code, hstored, .inl rfl⟩ hbefore source
    rw [hrun]
    exact hholds.answers (hkey p (by simp)) source

/-- A code that is tried too early, looked at and redeemed in its window, and tried again later, in a
spelling of its own each time. -/
theorem life_cycle_redeemed :
    let before : Instant := ⟨19700, 0, 0, by decide, by decide, by decide, by decide, by decide⟩
    let within : Instant := ⟨19800, 0, 0, by decide, by decide, by decide, by decide, by decide⟩
    let after : Instant := ⟨20000, 0, 0, by decide, by decide, by decide, by decide, by decide⟩
    let bs := Text.encode ("\x7b\"code\":\"SAVE\",\"validFrom\":\"2024-01-01T00:00:00Z\"," ++
      "\"validTo\":\"2024-07-01T00:00:00Z\",\"discount\":0.25,\"used\":false\x7d")
    let code : PromoCode := ⟨"SAVE", ⟨19723, 0, 0, by decide, by decide, by decide, by decide, by decide⟩,
      ⟨19905, 0, 0, by decide, by decide, by decide, by decide, by decide⟩, ⟨0x3E800000⟩, false⟩
    let c : Contents := Table.empty.insert "save" bs
    let ps : List Presentation := [⟨before, "Save", true⟩, ⟨within, "SAVE", false⟩,
      ⟨within, "sAVE", true⟩, ⟨after, "save", true⟩]
    let source : Scripted := ⟨[], [], []⟩
    (∃ early opened rest why, ps = early ++ opened ++ rest ∧ Phases code early opened why ∧
        (runPresentations ps c source).1 = phaseReplies code early opened rest why) ∧
      ∀ before p after, ps = before ++ p :: after →
        ∃ v, Answers code p (runPresentations before c source).2 v := by
  intro before within after bs code c ps source
  have hget : c.get? "save" = some bs := by decide +kernel
  have hcode : Json.decode bs = .ok code := by decide +kernel
  have hkey : ∀ p ∈ ps, PromoCode.keyOf p.input = "save" := by decide +kernel
  have hclock : (ps.map Presentation.now).Pairwise (· ≤ ·) := by decide +kernel
  exact life_cycle hget hcode (by decide +kernel) hkey hclock source

end
end TodoPromo
