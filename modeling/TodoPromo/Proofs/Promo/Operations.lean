import TodoPromo.Promo.Service
import TodoPromo.Proofs.Json.Records
import TodoPromo.Proofs.Store.Transactions

/-! # The operations on promo codes as transactions

What a written code reads back as (`spells_promoCode`), and the validation and the redemption of a
code as transactions on its key: functions from the stored code to the answer and to the code that
is written in its place. -/

namespace TodoPromo

/-! ### Written codes -/

theorem regularFields_promoCode : Json.RegularFields (Json.Record.shape PromoCode).fields :=
  Json.regularFields_required
    (l := [("code", .text), ("validFrom", .instant), ("validTo", .instant), ("discount", .single),
      ("used", .flag)])
    (by decide)

/-- What reading a written code gives: its numbers and times go through their written forms. -/
def PromoCode.reread (c : PromoCode) : Option PromoCode :=
  (Json.Kind.instant.reread c.validFrom).bind fun validFrom =>
    (Json.Kind.instant.reread c.validTo).bind fun validTo =>
      (Json.Kind.single.reread c.discount).map fun discount =>
        { c with validFrom, validTo, discount }

theorem spells_promoCode (c : PromoCode) :
    Json.Spells (Json.Coded.read : Json.Reader PromoCode) (Json.encode c) c.reread := by
  have h := Json.spells_record regularFields_promoCode c
  have hrow : (Json.Row.reread (Json.Record.shape PromoCode).fields (Json.Record.toRow c)).map
      Json.Record.ofRow = c.reread := by
    unfold PromoCode.reread
    simp only [Json.Record.shape, Json.Record.toRow, Json.Row.reread, Json.Field.required,
      Bool.false_eq_true, if_false, Json.Kind.reread_text, Json.Kind.reread_flag, Option.bind_some]
    cases Json.Kind.instant.reread c.validFrom with
    | none => rfl
    | some validFrom =>
        cases Json.Kind.instant.reread c.validTo with
        | none => rfl
        | some validTo =>
            cases Json.Kind.single.reread c.discount with
            | none => rfl
            | some discount => rfl
  rw [hrow] at h
  exact h

theorem PromoCode.reread_eq (c : PromoCode) :
    c.reread = (Json.Kind.single.reread c.discount).map fun discount => { c with discount } := by
  unfold reread
  simp only [Json.Kind.reread_instant, Option.bind_some]

theorem used_of_decode {c c' : PromoCode} (h : Json.decode (Json.encode c) = .ok c') :
    c'.used = c.used := by
  have hspells := spells_promoCode c
  cases hr : c.reread with
  | none =>
      rw [hr] at hspells
      obtain ⟨e, he⟩ := Json.decode_of_spells_none hspells
      rw [h] at he
      cases he
  | some r =>
      rw [hr] at hspells
      obtain rfl : c' = r := Except.ok.inj (h.symm.trans (Json.decode_of_spells hspells))
      rw [PromoCode.reread_eq] at hr
      obtain ⟨discount, -, rfl⟩ := Option.map_eq_some_iff.mp hr
      rfl

/-- A code is read back as it was, but for the discount, which is what its written form gives. -/
theorem PromoCode.decode_encode_of_reread {c : PromoCode} {discount : Single}
    (h : Json.Kind.single.reread c.discount = some discount) :
    Json.decode (Json.encode c) = .ok { c with discount } := by
  have hspells := spells_promoCode c
  rw [reread_eq, h] at hspells
  exact Json.decode_of_spells hspells

/-- A code with a finite discount is read back with some discount. -/
theorem PromoCode.decode_encode {c : PromoCode} (h : c.discount.isFinite = true) :
    ∃ discount, Json.decode (Json.encode c) = .ok { c with discount } := by
  obtain ⟨discount, hdiscount⟩ := Option.isSome_iff_exists.mp
    ((Json.Kind.isSome_reread_single c.discount).trans h)
  exact ⟨discount, decode_encode_of_reread hdiscount⟩

/-- A code with a discount that is not finite cannot be read back. -/
theorem PromoCode.decode_encode_infinite {c : PromoCode} (h : c.discount.isFinite = false) :
    ∃ e, (Json.decode (Json.encode c) : Except Json.Failure PromoCode) = .error e := by
  have hnone : Json.Kind.single.reread c.discount = none := by
    rw [← Option.not_isSome_iff_eq_none, Json.Kind.isSome_reread_single, h]
    exact Bool.false_ne_true
  have hspells := spells_promoCode c
  rw [reread_eq, hnone] at hspells
  exact Json.decode_of_spells_none hspells

/-- Where a code with a finite discount was written, it is found. -/
theorem Contents.stored?_of_encode {t : Contents} {key : String} {c : PromoCode}
    (hget : t.get? key = some (Json.encode c)) (h : c.discount.isFinite = true) :
    ∃ discount, t.stored? key = .ok (some { c with discount }) := by
  obtain ⟨discount, hdecode⟩ := c.decode_encode h
  exact ⟨discount, stored?_of_decode hget hdecode⟩

/-! ### Codes and the time -/

namespace PromoCode

variable {c : PromoCode} {now : Time.Instant}

theorem unused_of_check (h : c.check now = none) : c.used = false := by
  unfold check at h
  split at h
  · cases h
  · simp_all

theorem check_used (h : c.used = true) (now : Time.Instant) : c.check now = some .alreadyUsed :=
  if_pos h

/-- On a code that is not used the verdict is a matter of the time. -/
theorem check_unused (h : c.used = false) (now : Time.Instant) :
    c.check now = some .notYetActive ∧ now < c.validFrom ∨
      c.validFrom ≤ now ∧ (c.check now = some .expired ∧ c.validTo ≤ now ∨
        c.check now = none ∧ now < c.validTo) := by
  unfold check
  rw [h]
  simp only [Bool.false_eq_true, if_false]
  by_cases hfrom : now < c.validFrom
  · exact .inl ⟨if_pos hfrom, hfrom⟩
  · rw [if_neg hfrom]
    by_cases hto : c.validTo ≤ now
    · exact .inr ⟨hfrom, .inl ⟨if_pos hto, hto⟩⟩
    · exact .inr ⟨hfrom, .inr ⟨if_neg hto, Decidable.not_not.mp hto⟩⟩

theorem check_expired (h : c.used = false) (hfrom : c.validFrom ≤ now) (hto : c.validTo ≤ now) :
    c.check now = some .expired := by
  obtain ⟨-, hearly⟩ | ⟨-, ⟨hcheck, -⟩ | ⟨-, hopen⟩⟩ := check_unused h now
  · exact absurd hearly hfrom
  · exact hcheck
  · exact absurd hopen hto

end PromoCode

/-! ### Transactions -/

namespace Promo

/-- The stored code if it can be redeemed, or why it cannot. -/
def verdict (now : Time.Instant) : Option PromoCode → Except Rejection PromoCode
  | none => .error .unknownCode
  | some c =>
    match c.check now with
    | some why => .error why
    | none => .ok c

theorem verdict_eq_ok {now : Time.Instant} {c? : Option PromoCode} {c : PromoCode} :
    verdict now c? = .ok c ↔ c? = some c ∧ c.check now = none := by
  cases c? with
  | none => simp [verdict]
  | some d =>
      constructor
      · intro h
        cases hd : d.check now with
        | none =>
            simp only [verdict, hd] at h
            obtain rfl := Except.ok.inj h
            exact ⟨rfl, hd⟩
        | some why =>
            simp only [verdict, hd] at h
            cases h
      · rintro ⟨heq, hc⟩
        obtain rfl := Option.some.inj heq
        simp only [verdict, hc]

/-- The verdict on an input as an answer. -/
def judged (input : String) : Except Rejection PromoCode → Validation
  | .ok c => .accepted input c.discount
  | .error why => .rejected input why

theorem valid_judged {input : String} {v : Except Rejection PromoCode} :
    (judged input v).valid = true ↔ ∃ c, v = .ok c := by
  cases v with
  | error why => simp [judged, Validation.rejected]
  | ok c => simp [judged, Validation.accepted]

theorem valid_judged_verdict {input : String} {now : Time.Instant} {c : PromoCode} :
    (judged input (verdict now (some c))).valid = true ↔ c.check now = none := by
  rw [valid_judged]
  constructor
  · rintro ⟨d, hd⟩
    obtain ⟨hsome, hcheck⟩ := verdict_eq_ok.mp hd
    exact Option.some.inj hsome ▸ hcheck
  · exact fun h => ⟨c, verdict_eq_ok.mpr ⟨rfl, h⟩⟩

theorem judged_of_check {input : String} {now : Time.Instant} {c : PromoCode} {why : Rejection}
    (h : c.check now = some why) : judged input (verdict now (some c)) = .rejected input why := by
  simp only [verdict, h, judged]

/-- The code is judged and stays as it is. -/
def validated (now : Time.Instant) (input : String) (c? : Option PromoCode) :
    Validation × Option PromoCode :=
  (judged input (verdict now c?), none)

/-- The code is judged, and is used from now on if it can be redeemed. -/
def redeemed (now : Time.Instant) (input : String) (c? : Option PromoCode) :
    Redemption × Option PromoCode :=
  ((judged input (verdict now c?)).toRedemption,
    (verdict now c?).toOption.map fun c => { c with used := true })

variable {σ : Type} [KeyValue σ]

theorem redeemable_eq_verdict (now : Time.Instant) (input : String) :
    (redeemable now input : Action σ (Except Rejection PromoCode)) =
      KeyValue.read? (PromoCode.keyOf input) >>= fun c? => pure (verdict now c?) := by
  unfold redeemable
  congr 1
  funext c?
  cases c? with
  | none => rfl
  | some c =>
      simp only [verdict]
      cases c.check now with
      | none => rfl
      | some why => rfl

theorem validate_eq_transact (now : Time.Instant) (input : String) :
    (validate now input : Action σ Validation) =
      KeyValue.transact (PromoCode.keyOf input) (validated now input) := by
  unfold validate KeyValue.transact
  rw [redeemable_eq_verdict, bind_assoc]
  congr 1
  funext c?
  rw [pure_bind]
  unfold validated
  cases verdict now c? with
  | error why => rfl
  | ok c => rfl

theorem redeem_eq_transact (now : Time.Instant) (input : String) :
    (redeem now input : Action σ Redemption) =
      KeyValue.transact (PromoCode.keyOf input) (redeemed now input) := by
  unfold redeem KeyValue.transact
  rw [redeemable_eq_verdict, bind_assoc]
  congr 1
  funext c?
  rw [pure_bind]
  unfold redeemed
  cases verdict now c? with
  | error why => rfl
  | ok c => rfl

/-! ### Storing codes -/

section
variable {φ ρ : Type} [FaultPlan φ] [NumberSource ρ]

theorem get?_writeAll {codes : List PromoCode} {key : String} (h : ∀ c ∈ codes, c.key ≠ key)
    (s : Faulty Contents φ) :
    ((writeAll codes : Action (Faulty Contents φ) Unit).outcome s).2.store.get? key =
      s.store.get? key := by
  induction codes generalizing s with
  | nil => rfl
  | cons c codes ih =>
      unfold writeAll
      obtain ⟨writes, ⟨e, -, hw⟩ | ⟨-, hw⟩⟩ := KeyValue.write_faulty c.key c s
      · rw [Action.outcome_bind_error hw]
        rfl
      · rw [Action.outcome_bind_ok hw, ih (fun c' hc' => h c' (by simp [hc'])),
          Table.get?_insert, if_neg (h c (by simp))]

theorem code_of_generateOne {id : String} {now : Time.Instant} {source source' : ρ} {c : PromoCode}
    (h : Sample.generateOne id now source = (some c, source')) : c.code = id := by
  unfold Sample.generateOne at h
  dsimp only at h
  split at h
  · cases (Prod.mk.inj h).1
  · rw [← Option.some.inj (Prod.mk.inj h).1]
    rfl

theorem codes_of_generate {now : Time.Instant} {ids : List String} {source source' : ρ}
    {codes : List PromoCode} (h : Sample.generate now ids source = (some codes, source')) :
    codes.map PromoCode.code = ids := by
  induction ids generalizing source source' codes with
  | nil =>
      obtain ⟨hcodes, -⟩ := Prod.mk.inj h
      obtain rfl := Option.some.inj hcodes
      rfl
  | cons id ids ih =>
      unfold Sample.generate at h
      cases hone : Sample.generateOne id now source with
      | mk c? source₁ =>
          rw [hone] at h
          cases c? with
          | none => cases (Prod.mk.inj h).1
          | some c =>
              cases hrest : Sample.generate now ids source₁ with
              | mk rest? source₂ =>
                  simp only [hrest] at h
                  obtain ⟨rest, rfl, rfl⟩ := Option.map_eq_some_iff.mp (Prod.mk.inj h).1
                  rw [List.map_cons, code_of_generateOne hone, ih hrest]

theorem key_ne_of_generate {now : Time.Instant} {ids : List String} {source source' : ρ}
    {codes : List PromoCode} (h : Sample.generate now ids source = (some codes, source')) {key : String}
    (hids : ∀ id ∈ ids, PromoCode.keyOf id ≠ key) : ∀ c ∈ codes, c.key ≠ key := by
  intro c hc
  refine hids c.code ?_
  rw [← codes_of_generate h]
  exact List.mem_map_of_mem hc

section
variable {now : Time.Instant} {ids : List String} {source source' : ρ}

/-- Sample codes that are generated are written, and nothing else is done. -/
theorem seed_generated {codes : List PromoCode}
    (h : Sample.generate now ids source = (some codes, source')) (s : σ) :
    seed now ids source s =
      (((((writeAll codes).outcome s).1.map fun _ => codes).mapError .service, source'),
        ((writeAll codes).outcome s).2) := by
  unfold seed
  rw [h]
  dsimp only
  cases (writeAll codes : Action σ Unit).outcome s with
  | mk written s' =>
      cases written with
      | ok u => rfl
      | error e => rfl

theorem seed_beyond (h : Sample.generate now ids source = (none, source')) (s : σ) :
    seed now ids source s = ((.error .beyondCalendar, source'), s) := by
  unfold seed
  rw [h]

end

end

end Promo
end TodoPromo
