import TodoPromo.Proofs.Services.Calls
import TodoPromo.Random.Scripted

/-! # A code is redeemed at most once

Whatever was stored under a key, and however the store fails, the key accepts at most one
redemption (`redeemed_at_most_once`). What carries the proof is that a key can be spent
(`Contents.Spent`): nothing that reads as a code that can still be used stands under it. A
redemption spends its key, since it writes a used code and a used code is read back as used; and
no call of either service undoes that, since a written todo list never reads as a code. -/

namespace TodoPromo

/-- Nothing under this key reads as a code that is not used. -/
def Contents.Spent (c : Contents) (key : String) : Prop :=
  ∀ code : PromoCode, c.stored? key = .ok (some code) → code.used = true

namespace Contents

variable {c c' : Contents} {key : String}

theorem Spent.congr (h : c.Spent key) (hget : c'.get? key = c.get? key) : c'.Spent key := by
  intro code hcode
  rw [stored?_congr hget] at hcode
  exact h code hcode

theorem spent_of_used {code : PromoCode} (hget : c.get? key = some (Json.encode code))
    (hused : code.used = true) : c.Spent key := by
  intro code' hcode'
  rw [used_of_decode (stored?_of_get? hget hcode'), hused]

theorem spent_of_todos {ts : List Todo} (hget : c.get? key = some (Json.encode ts)) :
    c.Spent key := by
  intro code hcode
  obtain ⟨e, he⟩ := decode_todos_as_code ts
  rw [stored?_of_get? hget hcode] at he
  cases he

end Contents

/-! ### One redemption -/

section
variable {φ : Type} [FaultPlan φ] {now : Time.Instant} {input : String} {p : φ} {c c' : Contents}

theorem Contents.spent_of_redeemed {v : Redemption}
    (h : KeyValue.Settles (PromoCode.keyOf input) (Promo.redeemed now input) p c (.ok v) c')
    (hv : v.valid = true) : c'.Spent (PromoCode.keyOf input) := by
  cases h with
  | @done a? h =>
      obtain ⟨code, hcode⟩ := Promo.valid_judged.mp hv
      have hget : (c.commit (PromoCode.keyOf input) (Promo.redeemed now input a?).2).get?
          (PromoCode.keyOf input) = some (Json.encode { code with used := true }) := by
        unfold Promo.redeemed
        rw [hcode]
        exact get?_commit_some c _ _
      exact spent_of_used hget rfl

/-- A spent key accepts no redemption, and stays as it is. -/
theorem Contents.Spent.redeemed {r : Except ActionError Redemption}
    (hs : c.Spent (PromoCode.keyOf input))
    (h : KeyValue.Settles (PromoCode.keyOf input) (Promo.redeemed now input) p c r c') :
    c' = c ∧ ∀ v, r = .ok v → v.valid = false := by
  cases h with
  | failed e => exact ⟨rfl, fun v hv => by cases hv⟩
  | @done a? h =>
      have hverdict : ∀ code, Promo.verdict now a? ≠ .ok code := by
        intro code hcode
        obtain ⟨rfl, hcheck⟩ := Promo.verdict_eq_ok.mp hcode
        obtain hstored | ⟨hnone, -⟩ := h
        · have hused := hs code hstored
          rw [PromoCode.unused_of_check hcheck] at hused
          cases hused
        · cases hnone
      unfold Promo.redeemed
      cases hv : Promo.verdict now a? with
      | ok code => exact absurd hv (hverdict code)
      | error why => exact ⟨rfl, fun v h => by rw [← Except.ok.inj h]; rfl⟩

end

/-! ### One call -/

namespace Operation

/-- The reply to a call says that the code under this key was redeemed. -/
def accepts (key : String) : Operation → Reply → Bool
  | promo (.redeem _ input), .promo (.redeemed (.ok v)) =>
    decide (PromoCode.keyOf input = key) && v.valid
  | _, _ => false

variable {φ ρ : Type} [FaultPlan φ] [NumberSource ρ] {key : String} {s : Faulty Contents φ × ρ}

theorem spent_todo (c : TodoCall) (hs : s.1.store.Spent key) :
    ((todo c).perform s).2.1.store.Spent key := by
  cases hc : c.refusal? with
  | some e =>
      have hperform : (todo c).perform s = (.todo (.error e), s) := by
        change onStore c.action Reply.todo s = _
        rw [TodoCall.action_eq_throw hc]
        rfl
      rw [hperform]
      exact hs
  | none =>
      obtain ⟨r, c', calls, writes, hperform, hsettles⟩ := onStore_faulty TodoList.listKey
        (fun ts? : Option (List Todo) => c.effect (ts?.getD [])) Reply.todo s
      change (onStore c.action Reply.todo s).2.1.store.Spent key
      rw [TodoCall.action_eq_edit hc, TodoList.edit, hperform]
      by_cases hkey : TodoList.listKey = key
      · subst hkey
        cases hsettles with
        | failed e => exact hs
        | @done ts? h =>
            change ((s.1.store).commit _ (c.effect (ts?.getD [])).2).Spent _
            cases (c.effect (ts?.getD [])).2 with
            | none => exact hs
            | some ts => exact Contents.spent_of_todos (Contents.get?_commit_some _ _ ts)
      · exact hs.congr (hsettles.get?_of_ne hkey)

theorem spent_validate (now : Time.Instant) (input : String) (hs : s.1.store.Spent key) :
    ((promo (.validate now input)).perform s).2.1.store.Spent key := by
  obtain ⟨r, c', calls, writes, hperform, hsettles⟩ := onStore_faulty (PromoCode.keyOf input)
    (Promo.validated now input) PromoReply.validated s
  change (onStore (Promo.validate now input) PromoReply.validated s).2.1.store.Spent key
  rw [Promo.validate_eq_transact, hperform]
  cases hsettles with
  | failed e => exact hs
  | done h => exact hs

theorem spent_redeem (now : Time.Instant) (input : String) (hs : s.1.store.Spent key) :
    ((promo (.redeem now input)).perform s).2.1.store.Spent key ∧
      (promo (.redeem now input)).accepts key ((promo (.redeem now input)).perform s).1 = false := by
  obtain ⟨r, c', calls, writes, hperform, hsettles⟩ := onStore_faulty (PromoCode.keyOf input)
    (Promo.redeemed now input) PromoReply.redeemed s
  change (onStore (Promo.redeem now input) PromoReply.redeemed s).2.1.store.Spent key ∧
    accepts key _ (.promo (onStore (Promo.redeem now input) PromoReply.redeemed s).1) = false
  rw [Promo.redeem_eq_transact, hperform]
  by_cases hkey : PromoCode.keyOf input = key
  · subst hkey
    obtain ⟨rfl, hinvalid⟩ := hs.redeemed hsettles
    refine ⟨hs, ?_⟩
    cases r with
    | error e => rfl
    | ok v => simp [accepts, hinvalid v rfl]
  · refine ⟨hs.congr (hsettles.get?_of_ne hkey), ?_⟩
    cases r with
    | error e => rfl
    | ok v => simp [accepts, hkey]

theorem spent_of_accepts {op : Operation} (h : op.accepts key (op.perform s).1 = true) :
    (op.perform s).2.1.store.Spent key := by
  unfold accepts at h
  split at h
  · rename_i now input v heq
    obtain ⟨r, c', calls, writes, hperform, hsettles⟩ := onStore_faulty (PromoCode.keyOf input)
      (Promo.redeemed now input) PromoReply.redeemed s
    rw [← Promo.redeem_eq_transact] at hperform
    change Reply.promo (onStore (Promo.redeem now input) PromoReply.redeemed s).1 = _ at heq
    change (onStore (Promo.redeem now input) PromoReply.redeemed s).2.1.store.Spent key
    rw [hperform] at heq ⊢
    obtain ⟨hkey, hv⟩ := (Bool.and_eq_true _ _).mp h
    obtain rfl := of_decide_eq_true hkey
    obtain rfl : r = .ok v := PromoReply.redeemed.inj (Reply.promo.inj heq)
    exact Contents.spent_of_redeemed hsettles hv
  · cases h

/-- A spent key stays spent and accepts no redemption, unless something is stored under it. -/
theorem spent_perform (op : Operation) (hs : s.1.store.Spent key)
    (hstores : op.stores = true → (op.perform s).2.1.store.get? key = s.1.store.get? key) :
    (op.perform s).2.1.store.Spent key ∧ op.accepts key (op.perform s).1 = false := by
  cases op with
  | todo c => exact ⟨spent_todo c hs, rfl⟩
  | put key' value => exact ⟨hs.congr (hstores rfl), rfl⟩
  | promo c =>
      cases c with
      | validate now input => exact ⟨spent_validate now input hs, rfl⟩
      | redeem now input => exact spent_redeem now input hs
      | seed now ids => exact ⟨hs.congr (hstores rfl), rfl⟩
      | storeAll codes => exact ⟨hs.congr (hstores rfl), rfl⟩

theorem get?_of_spares {op : Operation} (h : op.Spares key) (hstores : op.stores = true)
    (s : Faulty Contents φ × ρ) :
    (op.perform s).2.1.store.get? key = s.1.store.get? key := by
  cases op with
  | todo c => cases hstores
  | put key' value =>
      obtain ⟨writes, ⟨e, -, hset⟩ | ⟨-, hset⟩⟩ :=
        Faulty.guard_outcome .set (KeyValue.set key' value : Action Contents Unit) s.1
      · change ((Faulty.guard .set (KeyValue.set key' value)).outcome s.1).2.store.get? key = _
        rw [hset]
        rfl
      · change ((Faulty.guard .set (KeyValue.set key' value)).outcome s.1).2.store.get? key = _
        rw [hset]
        exact (Table.get?_insert s.1.store key' key value).trans (if_neg h)
  | promo c =>
      cases c with
      | validate now input => cases hstores
      | redeem now input => cases hstores
      | storeAll codes => exact Promo.get?_writeAll h s.1
      | seed now ids =>
          change (Promo.seed now ids s.2 s.1).2.store.get? key = s.1.store.get? key
          cases hgenerate : Sample.generate now ids s.2 with
          | mk codes? source =>
              cases codes? with
              | none => rw [Promo.seed_beyond hgenerate]
              | some codes =>
                  rw [Promo.seed_generated hgenerate]
                  exact Promo.get?_writeAll (Promo.key_ne_of_generate hgenerate h) s.1

end Operation

/-! ### Sequences of calls -/

section
variable {φ ρ : Type} [FaultPlan φ] [NumberSource ρ] {key : String}

/-- No storing of codes and no direct write changes what is under the key. -/
def Undisturbed (key : String) : List Operation → Faulty Contents φ × ρ → Prop
  | [], _ => True
  | op :: ops, s =>
    (op.stores = true → (op.perform s).2.1.store.get? key = s.1.store.get? key) ∧
      Undisturbed key ops (op.perform s).2

theorem undisturbed_of_spares {ops : List Operation} (h : ∀ op ∈ ops, op.Spares key)
    (s : Faulty Contents φ × ρ) : Undisturbed key ops s := by
  induction ops generalizing s with
  | nil => trivial
  | cons op ops ih =>
      refine ⟨fun hstores => ?_, ih (fun op' hop' => h op' (by simp [hop'])) _⟩
      exact Operation.get?_of_spares (h op (by simp)) hstores s

/-- How many redemptions of the code under this key are accepted. -/
def redemptions (key : String) (ops : List Operation) (s : Faulty Contents φ × ρ) : Nat :=
  (ops.zip (run ops s).1).countP fun p => p.1.accepts key p.2

theorem redemptions_cons (op : Operation) (ops : List Operation) (s : Faulty Contents φ × ρ) :
    redemptions key (op :: ops) s = redemptions key ops (op.perform s).2 +
      if op.accepts key (op.perform s).1 = true then 1 else 0 :=
  List.countP_cons

theorem redemptions_of_spent {s : Faulty Contents φ × ρ} (hs : s.1.store.Spent key)
    {ops : List Operation} (h : Undisturbed key ops s) : redemptions key ops s = 0 := by
  induction ops generalizing s with
  | nil => rfl
  | cons op ops ih =>
      obtain ⟨hspent, hrejects⟩ := Operation.spent_perform op hs h.1
      rw [redemptions_cons, ih hspent h.2, hrejects]
      rfl

/-- A code is redeemed at most once, whatever the store held at first and however it fails, as long
as the code is not stored anew. -/
theorem redeemed_at_most_once {s : Faulty Contents φ × ρ} {ops : List Operation}
    (h : Undisturbed key ops s) : redemptions key ops s ≤ 1 := by
  induction ops generalizing s with
  | nil => exact Nat.zero_le 1
  | cons op ops ih =>
      rw [redemptions_cons]
      cases haccepts : op.accepts key (op.perform s).1 with
      | true =>
          have hspent := Operation.spent_of_accepts haccepts
          rw [redemptions_of_spent hspent h.2]
          exact Nat.le_refl 1
      | false => exact ih h.2

/-- Three redemptions of one code, each in a spelling of its own; the store denies the first. -/
theorem redeemed_at_most_once_spellings :
    let now : Time.Instant := ⟨19800, 0, 0, by decide, by decide, by decide, by decide, by decide⟩
    let code := Text.encode ("\x7b\"code\":\"SAVE\",\"validFrom\":\"2024-01-01T00:00:00Z\"," ++
      "\"validTo\":\"2024-07-01T00:00:00Z\",\"discount\":0.25,\"used\":false\x7d")
    let plan : List FaultRule := [⟨.get, 0, some 1, .notFound "save"⟩]
    let s : Faulty Contents (List FaultRule) × Scripted :=
      (⟨Table.ofList [("save", code)], plan, 0⟩, ⟨[], [], []⟩)
    let ops : List Operation := [.promo (.redeem now "Save"), .todo (.add "1" "milk"),
      .put "other" code, .promo (.redeem now "SAVE"), .promo (.redeem now "save")]
    redemptions "save" ops s = 1 ∧ redemptions "save" ops s ≤ 1 := by
  intro now code plan s ops
  have hspares : ∀ op ∈ ops, op.Spares "save" := by
    simp [ops, Operation.Spares]
  exact ⟨by decide +kernel, redeemed_at_most_once (undisturbed_of_spares hspares s)⟩

end
end TodoPromo
