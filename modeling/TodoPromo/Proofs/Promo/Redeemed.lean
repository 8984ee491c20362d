import TodoPromo.Proofs.Promo.LifeCycle
import TodoPromo.Proofs.Services.Separation

/-! # What a redemption leaves behind

A used code that was written stays under its key, byte for byte, under all calls of both services that
store nothing there themselves (`HoldsUsed.run`), and every presented code of the key is answered by it.
The entry that a redemption writes can be read again exactly if the discount that was read from the entry
before is finite (`redeemed_entry`): then the code counts as used from now on, and otherwise every call
that presents it fails. -/

namespace TodoPromo

open TodoList (listKey)
open Time (Instant)

variable {ρ : Type} [NumberSource ρ]

theorem decode_code_as_todos (code : PromoCode) :
    ∃ e, (Json.decode (Json.encode code) : Except Json.Failure (List Todo)) = .error e :=
  ⟨_, rfl⟩

theorem Operation.exists_presentation {op : Operation} {input : String} (h : op.input? = some input) :
    ∃ p : Presentation, p.operation = op ∧ p.input = input := by
  cases op with
  | todo call => cases h
  | put key value => cases h
  | promo call =>
      cases call with
      | validate now presented => exact ⟨⟨now, presented, false⟩, rfl, Option.some.inj h⟩
      | redeem now presented => exact ⟨⟨now, presented, true⟩, rfl, Option.some.inj h⟩
      | seed now ids => cases h
      | storeAll codes => cases h

/-! ### Entries of used codes -/

/-- What was written under the key last is this code, and it is used. -/
structure HoldsUsed (key : String) (code : PromoCode) (c : Contents) : Prop where
  used : code.used = true
  written : c.get? key = some (Json.encode code)

/-- What every presented code is answered by the entry of a used one. -/
def PromoCode.answer (code : PromoCode) (input : String) : Except ActionError Validation :=
  match (Json.decode (Json.encode code) : Except Json.Failure PromoCode) with
  | .ok _ => .ok (.rejected input .alreadyUsed)
  | .error e => .error (.storage e.message)

namespace HoldsUsed

variable {key : String} {code : PromoCode} {c : Contents} {op : Operation}

theorem congr {c' : Contents} (h : HoldsUsed key code c) (hget : c'.get? key = c.get? key) :
    HoldsUsed key code c' :=
  ⟨h.used, hget.trans h.written⟩

theorem perform_presented (h : HoldsUsed key code c) {input : String} (hinput : op.input? = some input)
    (hkey : PromoCode.keyOf input = key) (source : ρ) :
    op.perform (c, source) = (op.answered (code.answer input), (c, source)) := by
  obtain ⟨p, rfl, rfl⟩ := Operation.exists_presentation hinput
  subst hkey
  unfold PromoCode.answer
  cases hdecode : (Json.decode (Json.encode code) : Except Json.Failure PromoCode) with
  | error e =>
      obtain ⟨now, next, -, hperform⟩ := Operation.perform_input (ρ := ρ) hinput
      rw [hperform, Contents.stored?_of_decode_error h.written hdecode]
  | ok d =>
      have hused := d.check_used ((used_of_decode hdecode).trans h.used) p.now
      rw [p.perform (Contents.stored?_of_decode h.written hdecode), (p.verdict_of_some hused).1,
        (p.verdict_of_some hused).2]
      rfl

theorem perform_todo (h : HoldsUsed key code c) (call : TodoCall) (source : ρ) :
    HoldsUsed key code ((Operation.todo call).perform (c, source)).2.1 := by
  by_cases hkey : listKey = key
  · subst hkey
    obtain ⟨e, hdecode⟩ := decode_code_as_todos code
    have hstored := Contents.stored?_of_decode_error h.written hdecode
    have hperform : ((Operation.todo call).perform (c, source)).2 = (c, source) := by
      change (onStore call.action Reply.todo (c, source)).2 = _
      cases hcall : call.refusal? with
      | some e =>
          rw [TodoCall.action_eq_throw hcall]
          rfl
      | none => rw [TodoCall.action_eq_edit hcall, TodoList.edit, onStore_table, hstored]
    rw [hperform]
    exact h
  · have hentry : Operation.entry? (.todo call) = some listKey := rfl
    exact h.congr (Operation.perform_entry_of_ne hentry hkey (c, source)).1

/-- No call that stores nothing under the key changes what is there. -/
theorem perform (h : HoldsUsed key code c) (hspares : op.Spares key) (source : ρ) :
    HoldsUsed key code (op.perform (c, source)).2.1 := by
  cases htodo : op.isTodo with
  | true =>
      cases op with
      | todo call => exact h.perform_todo call source
      | promo call => cases htodo
      | put key value => cases htodo
  | false =>
      cases hinput : op.input? with
      | none =>
          have hstores := Operation.stores_of_input?_eq_none htodo hinput
          obtain ⟨reply, entries, source', hentries, hperform⟩ := Operation.perform_stores hstores source
          rw [hperform]
          exact h.congr (Contents.get?_storing (hentries key hspares) c)
      | some input =>
          by_cases hkey : PromoCode.keyOf input = key
          · rw [h.perform_presented hinput hkey]
            exact h
          · have hentry := Operation.entry?_of_presents ((Operation.presents_iff hinput).mpr rfl)
            exact h.congr (Operation.perform_entry_of_ne hentry hkey (c, source)).1

theorem run {ops : List Operation} (h : HoldsUsed key code c) (hspares : ∀ op ∈ ops, op.Spares key)
    (source : ρ) : HoldsUsed key code (run ops (c, source)).2.1 := by
  induction ops generalizing c source with
  | nil => exact h
  | cons op ops ih =>
      obtain ⟨hop, hops⟩ := List.forall_mem_cons.mp hspares
      exact ih (h.perform hop source) hops _

end HoldsUsed

/-! ### Redemptions -/

/-- From this table on every presented code of the key is answered so, as long as no call stores anything
under the key. -/
def AnsweredFromNowOn (ρ : Type) [NumberSource ρ] (c : Contents) (key : String)
    (answer : String → Except ActionError Validation) : Prop :=
  ∀ ops : List Operation, (∀ op ∈ ops, op.Spares key) → ∀ (source : ρ) (op : Operation) (input : String),
    op.input? = some input → PromoCode.keyOf input = key →
      (op.perform (run ops (c, source)).2).1 = op.answered (answer input)

theorem HoldsUsed.answeredFromNowOn {key : String} {code : PromoCode} {c : Contents}
    (h : HoldsUsed key code c) : AnsweredFromNowOn ρ c key code.answer := by
  intro ops hspares source op input hinput hkey
  exact congrArg Prod.fst ((h.run hspares source).perform_presented hinput hkey _)

theorem Promo.redeem_accepted {c c' : Contents} {now : Instant} {input : String} {code : PromoCode}
    {v : Redemption} (hstored : c.stored? (PromoCode.keyOf input) = .ok (some code))
    (hredeem : (redeem now input).outcome c = (.ok v, c')) (hvalid : v.valid = true) :
    HoldsUsed (PromoCode.keyOf input) { code with used := true } c' := by
  rw [redeem_eq_transact, KeyValue.transact_table, hstored] at hredeem
  obtain ⟨hv, rfl⟩ := Prod.mk.inj hredeem
  rw [← Except.ok.inj hv] at hvalid
  obtain ⟨d, hd⟩ := valid_judged.mp hvalid
  obtain rfl : code = d := Option.some.inj (verdict_eq_ok.mp hd).1
  refine ⟨rfl, ?_⟩
  unfold redeemed
  rw [hd]
  exact Contents.get?_commit_some c _ _

/-- What a redemption leaves under the key that it was accepted on. If the discount that it read is
finite, this is a used code with the same name and window, and from now on every presented code is
rejected as used. Otherwise it cannot be read, and every presented code fails for that. -/
theorem redeemed_entry {c c' : Contents} {key input : String} {bs : Bytes} {code : PromoCode}
    {now : Instant} {v : Redemption} (hget : c.get? key = some bs) (hcode : Json.decode bs = .ok code)
    (hkey : PromoCode.keyOf input = key) (hredeem : (Promo.redeem now input).outcome c = (.ok v, c'))
    (hvalid : v.valid = true) :
    ∃ bs', c'.get? key = some bs' ∧
      (code.discount.isFinite = true →
        (∃ code' : PromoCode, Json.decode bs' = .ok code' ∧ code'.used = true ∧
          code'.code = code.code ∧ code'.validFrom = code.validFrom ∧ code'.validTo = code.validTo) ∧
        AnsweredFromNowOn ρ c' key fun input => .ok (.rejected input .alreadyUsed)) ∧
      (code.discount.isFinite = false →
        ∃ e : Json.Failure, (Json.decode bs' : Except Json.Failure PromoCode) = .error e ∧
          AnsweredFromNowOn ρ c' key fun _ => .error (.storage e.message)) := by
  subst hkey
  have hholds := Promo.redeem_accepted (Contents.stored?_of_decode hget hcode) hredeem hvalid
  have hanswered := hholds.answeredFromNowOn (ρ := ρ)
  unfold PromoCode.answer at hanswered
  refine ⟨_, hholds.written, fun hfinite => ?_, fun hinfinite => ?_⟩
  · obtain ⟨discount, hdecode⟩ := PromoCode.decode_encode (c := { code with used := true }) hfinite
    rw [hdecode] at hanswered
    exact ⟨⟨_, hdecode, rfl, rfl, rfl, rfl⟩, hanswered⟩
  · obtain ⟨e, hdecode⟩ := PromoCode.decode_encode_infinite (c := { code with used := true }) hinfinite
    rw [hdecode] at hanswered
    exact ⟨e, hdecode, hanswered⟩

theorem redeemed_entry_listed :
    let now : Instant := ⟨19800, 0, 0, by decide, by decide, by decide, by decide, by decide⟩
    let bs := Text.encode
      "[\"SAVE\",\"2024-01-01t00:00:00-00:00\",\"2024-07-01T02:00:00+02:00\",2500e-4,false]"
    let code : PromoCode := ⟨"SAVE", ⟨19723, 0, 0, by decide, by decide, by decide, by decide, by decide⟩,
      ⟨19905, 0, 0, by decide, by decide, by decide, by decide, by decide⟩, ⟨0x3E800000⟩, false⟩
    let c : Contents := Table.empty.insert "save" bs
    let c' := c.insert "save" (Json.encode { code with used := true })
    c.get? "save" = some bs ∧ Json.decode bs = .ok code ∧
      (Promo.redeem now "sAVE").outcome c =
        (.ok (Validation.accepted "sAVE" code.discount).toRedemption, c') ∧
      AnsweredFromNowOn Scripted c' "save" fun input => .ok (.rejected input .alreadyUsed) := by
  intro now bs code c c'
  have hget : c.get? "save" = some bs := by decide +kernel
  have hcode : Json.decode bs = .ok code := by decide +kernel
  have hkey : PromoCode.keyOf "sAVE" = "save" := by decide +kernel
  have hredeem : (Promo.redeem now "sAVE").outcome c =
      (.ok (Validation.accepted "sAVE" code.discount).toRedemption, c') := by decide +kernel
  obtain ⟨bs', -, hfinite, -⟩ := redeemed_entry (ρ := Scripted) hget hcode hkey hredeem rfl
  exact ⟨hget, hcode, hredeem, (hfinite (by decide)).2⟩

/-- A discount that is too large is read as infinite and accepted, but it is written as no number: after
the redemption the entry cannot be read any more. -/
theorem unreadable_after_redemption :
    let now : Instant := ⟨19800, 0, 0, by decide, by decide, by decide, by decide, by decide⟩
    let bs := Text.encode ("\x7b\"code\":\"BIG\",\"validFrom\":\"2024-01-01T00:00:00Z\"," ++
      "\"validTo\":\"2024-07-01T00:00:00Z\",\"discount\":1e39,\"used\":false\x7d")
    let bs' := Text.encode ("\x7b\"code\":\"BIG\",\"validFrom\":\"2024-01-01T00:00:00Z\"," ++
      "\"validTo\":\"2024-07-01T00:00:00Z\",\"discount\":null,\"used\":true\x7d")
    let code : PromoCode := ⟨"BIG", ⟨19723, 0, 0, by decide, by decide, by decide, by decide, by decide⟩,
      ⟨19905, 0, 0, by decide, by decide, by decide, by decide, by decide⟩, ⟨0x7F800000⟩, false⟩
    let c : Contents := Table.empty.insert "big" bs
    let c' : Contents := Table.empty.insert "big" bs'
    Json.decode bs = .ok code ∧
      (Promo.redeem now "BIG").outcome c =
        (.ok (Validation.accepted "BIG" code.discount).toRedemption, c') ∧
      (Json.decode bs' : Except Json.Failure PromoCode).toOption = none ∧
      ((Promo.validate now "BIG").outcome c').1.toOption = none := by
  decide +kernel

end TodoPromo
