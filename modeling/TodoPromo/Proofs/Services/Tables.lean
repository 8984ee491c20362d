import Mathlib.Data.List.Nodup
import TodoPromo.Proofs.Services.Calls

/-! # Calls on a store without faults

What the calls of both services come to on a table. A call on the todo list is decided by the stored
list alone (`perform_todo`); a presented code is one transaction on the key that it spells
(`perform_input`); and what is stored directly does not depend on what the table held
(`perform_stores`). -/

namespace TodoPromo

open TodoList (listKey)

/-! ### Tables -/

namespace Contents

/-- The table with these entries put into it one after another. -/
def storing (c : Contents) (entries : List (String × Bytes)) : Contents :=
  entries.foldl (fun c e => c.insert e.1 e.2) c

variable {key : String}

theorem get?_storing {entries : List (String × Bytes)} (h : ∀ e ∈ entries, e.1 ≠ key)
    (c : Contents) : (c.storing entries).get? key = c.get? key := by
  induction entries generalizing c with
  | nil => rfl
  | cons e entries ih =>
      change (storing (c.insert e.1 e.2) entries).get? key = _
      rw [ih (fun e' he' => h e' (by simp [he'])), Table.get?_insert, if_neg (h e (by simp))]

/-- Under the key of an entry the last entry of that key is found. -/
theorem exists_get?_storing {entries : List (String × Bytes)} {e : String × Bytes}
    (he : e ∈ entries) (c : Contents) :
    ∃ last ∈ entries, last.1 = e.1 ∧ (c.storing entries).get? e.1 = some last.2 := by
  induction entries generalizing e c with
  | nil => cases he
  | cons e' entries ih =>
      by_cases hlater : ∃ e'' ∈ entries, e''.1 = e.1
      · obtain ⟨e'', he'', hkey⟩ := hlater
        obtain ⟨last, hlast, hsame, hget⟩ := ih he'' (c.insert e'.1 e'.2)
        exact ⟨last, List.mem_cons_of_mem e' hlast, hsame.trans hkey, hkey ▸ hget⟩
      · have hothers : ∀ e'' ∈ entries, e''.1 ≠ e.1 := fun e'' he'' heq => hlater ⟨e'', he'', heq⟩
        obtain rfl : e = e' := (List.mem_cons.mp he).resolve_right fun he => hothers e he rfl
        refine ⟨e, List.mem_cons_self, rfl, ?_⟩
        change (storing (c.insert e.1 e.2) entries).get? e.1 = _
        rw [get?_storing hothers, Table.get?_insert, if_pos rfl]

/-- Entries with distinct keys are all found. -/
theorem get?_storing_of_mem {entries : List (String × Bytes)} (h : (entries.map Prod.fst).Nodup)
    {e : String × Bytes} (he : e ∈ entries) (c : Contents) :
    (c.storing entries).get? e.1 = some e.2 := by
  obtain ⟨last, hlast, hkey, hget⟩ := exists_get?_storing he c
  rwa [List.inj_on_of_nodup_map h hlast he hkey] at hget

end Contents

theorem onStore_table {ρ α β γ : Type} [Json.Coded α] (key : String) (f : Option α → β × Option α)
    (reply : Except ActionError β → γ) (c : Contents) (source : ρ) :
    onStore (KeyValue.transact key f) reply (c, source) =
      match c.stored? key with
      | .ok a? => (reply (.ok (f a?).1), (c.commit key (f a?).2, source))
      | .error e => (reply (.error e), (c, source)) := by
  unfold onStore
  rw [KeyValue.transact_table]
  cases (c.stored? key : Except ActionError (Option α)) with
  | error e => rfl
  | ok a? => rfl

namespace Promo

/-- The codes as entries of a table. -/
def entriesOf (codes : List PromoCode) : List (String × Bytes) :=
  codes.map fun code => (code.key, Json.encode code)

theorem keys_entriesOf (codes : List PromoCode) :
    (entriesOf codes).map Prod.fst = codes.map PromoCode.key := by
  rw [entriesOf, List.map_map]
  rfl

theorem ne_of_mem_entriesOf {codes : List PromoCode} {key : String}
    (h : ∀ code ∈ codes, code.key ≠ key) : ∀ e ∈ entriesOf codes, e.1 ≠ key := by
  intro e he
  obtain ⟨code, hcode, rfl⟩ := List.mem_map.mp he
  exact h code hcode

theorem writeAll_table (codes : List PromoCode) (c : Contents) :
    (writeAll codes).outcome c = (.ok (), c.storing (entriesOf codes)) := by
  induction codes generalizing c with
  | nil => rfl
  | cons code codes ih =>
      unfold writeAll
      rw [Action.outcome_bind_ok (KeyValue.write_table code.key code c), ih]
      rfl

/-- Codes under distinct keys are all found as they were given, but for their discounts. -/
theorem stored?_storing {codes : List PromoCode} (hkeys : (codes.map PromoCode.key).Nodup)
    {code : PromoCode} (hcode : code ∈ codes) (hfinite : code.discount.isFinite = true) (c : Contents) :
    ∃ discount, (c.storing (entriesOf codes)).stored? code.key = .ok (some { code with discount }) := by
  rw [← keys_entriesOf] at hkeys
  exact Contents.stored?_of_encode
    (Contents.get?_storing_of_mem hkeys (List.mem_map_of_mem hcode) c) hfinite

theorem validate_table {c : Contents} {now : Time.Instant} {input : String} {code : PromoCode}
    (h : c.stored? (PromoCode.keyOf input) = .ok (some code)) :
    (validate now input).outcome c = (.ok (judged input (verdict now (some code))), c) := by
  rw [validate_eq_transact, KeyValue.transact_table, h]
  rfl

theorem redeem_table {c : Contents} {now : Time.Instant} {input : String} {code : PromoCode}
    (h : c.stored? (PromoCode.keyOf input) = .ok (some code)) (hcheck : code.check now = none) :
    (redeem now input).outcome c = (.ok (Validation.accepted input code.discount).toRedemption,
      c.commit (PromoCode.keyOf input) (some { code with used := true })) := by
  have hredeemed : redeemed now input (some code) =
      ((Validation.accepted input code.discount).toRedemption, some { code with used := true }) := by
    unfold redeemed
    rw [verdict_eq_ok.mpr ⟨rfl, hcheck⟩]
    rfl
  rw [redeem_eq_transact, KeyValue.transact_table, h]
  dsimp only
  rw [hredeemed]

theorem seed_table {ρ : Type} [NumberSource ρ] (now : Time.Instant) (ids : List String)
    (source : ρ) (c : Contents) :
    seed now ids source c =
      match Sample.generate now ids source with
      | (none, source) => ((.error .beyondCalendar, source), c)
      | (some codes, source) => ((.ok codes, source), c.storing (entriesOf codes)) := by
  cases hgenerate : Sample.generate now ids source with
  | mk codes? source' =>
      cases codes? with
      | none => exact seed_beyond hgenerate c
      | some codes =>
          rw [seed_generated hgenerate, writeAll_table]
          rfl

end Promo

/-! ### Calls on the todo list -/

namespace TodoCall

/-- What a call comes to where this list is stored: the reply, and the list that is written. -/
def outcome (call : TodoCall) (ts? : Option (List Todo)) :
    Except ActionError TodoReply × Option (List Todo) :=
  match call.refusal? with
  | some e => (.error e, none)
  | none => (.ok (call.effect (ts?.getD [])).1, (call.effect (ts?.getD [])).2)

/-- The calls that write the list although there is none yet. -/
def founds : TodoCall → Bool
  | add _ content => !content.isEmpty
  | clearCompleted => true
  | _ => false

theorem isSome_outcome_none (call : TodoCall) : (call.outcome none).2.isSome = call.founds := by
  cases call with
  | add id content =>
      cases h : content.isEmpty with
      | true => simp [outcome, refusal?, founds, h]
      | false => simp [outcome, refusal?, founds, h, effect, TodoReply.of, TodoList.appended]
  | _ => rfl

end TodoCall

/-- This list is stored, or none is. -/
def Contents.Lists (c : Contents) (ts? : Option (List Todo)) : Prop :=
  c.get? listKey = ts?.map Json.encode

namespace Contents.Lists

variable {c : Contents} {ts? : Option (List Todo)}

theorem stored? (h : c.Lists ts?) : c.stored? listKey = .ok ts? := by
  unfold Lists at h
  unfold Contents.stored?
  rw [h]
  cases ts? with
  | none => rfl
  | some ts => simp [KeyValue.decodeFound, decode_todos]

theorem commit (h : c.Lists ts?) (next? : Option (List Todo)) :
    (c.commit listKey next?).Lists (next?.or ts?) := by
  cases next? with
  | none => exact h
  | some ts => exact get?_commit_some c listKey ts

theorem congr {c' : Contents} (h : c.Lists ts?) (hget : c'.get? listKey = c.get? listKey) :
    c'.Lists ts? :=
  hget.trans h

end Contents.Lists

namespace Operation

variable {ρ : Type} [NumberSource ρ]

theorem perform_todo {c : Contents} {ts? : Option (List Todo)} (h : c.Lists ts?) (call : TodoCall)
    (source : ρ) :
    (todo call).perform (c, source) =
      (.todo (call.outcome ts?).1, (c.commit listKey (call.outcome ts?).2, source)) := by
  change onStore call.action Reply.todo (c, source) = _
  unfold TodoCall.outcome
  cases hcall : call.refusal? with
  | some e =>
      rw [TodoCall.action_eq_throw hcall]
      rfl
  | none =>
      rw [TodoCall.action_eq_edit hcall, TodoList.edit, onStore_table, h.stored?]

/-! ### Calls on the codes -/

/-- The calls on the todo list. Direct writes count among the others, the calls on the codes. -/
def isTodo : Operation → Bool
  | todo _ => true
  | _ => false

/-- The calls that write the list although there is none yet. -/
def founds : Operation → Bool
  | todo call => call.founds
  | _ => false

/-- The code that a call presents. -/
def input? : Operation → Option String
  | promo (.validate _ input) => some input
  | promo (.redeem _ input) => some input
  | _ => none

/-- The answer to a presented code, in the form of the call. -/
def answered : Operation → Except ActionError Validation → Reply
  | promo (.redeem _ _), r => .promo (.redeemed (r.map Validation.toRedemption))
  | _, r => .promo (.validated r)

/-- A presented code is one transaction, which writes nothing where there is no code. -/
theorem perform_input {op : Operation} {input : String} (h : op.input? = some input) :
    ∃ now, ∃ next : Option PromoCode → Option PromoCode, next none = none ∧
      ∀ (c : Contents) (source : ρ), op.perform (c, source) =
        match c.stored? (PromoCode.keyOf input) with
        | .ok c? => (op.answered (.ok (Promo.judged input (Promo.verdict now c?))),
            (c.commit (PromoCode.keyOf input) (next c?), source))
        | .error e => (op.answered (.error e), (c, source)) := by
  cases op with
  | todo call => cases h
  | put key value => cases h
  | promo call =>
      cases call with
      | seed now ids => cases h
      | storeAll codes => cases h
      | validate now presented =>
          obtain rfl := Option.some.inj h
          refine ⟨now, fun _ => none, rfl, fun c source => ?_⟩
          change (Reply.promo (onStore (Promo.validate now presented) .validated (c, source)).1,
            (onStore (Promo.validate now presented) PromoReply.validated (c, source)).2) = _
          rw [Promo.validate_eq_transact, onStore_table]
          cases (c.stored? (PromoCode.keyOf presented) : Except ActionError (Option PromoCode)) with
          | error e => rfl
          | ok c? => rfl
      | redeem now presented =>
          obtain rfl := Option.some.inj h
          refine ⟨now, fun c? => (Promo.redeemed now presented c?).2, rfl, fun c source => ?_⟩
          change (Reply.promo (onStore (Promo.redeem now presented) .redeemed (c, source)).1,
            (onStore (Promo.redeem now presented) PromoReply.redeemed (c, source)).2) = _
          rw [Promo.redeem_eq_transact, onStore_table]
          cases (c.stored? (PromoCode.keyOf presented) : Except ActionError (Option PromoCode)) with
          | error e => rfl
          | ok c? => rfl

/-- What is stored, and what is answered, does not depend on what the store held. -/
theorem perform_stores {op : Operation} (h : op.stores = true) (source : ρ) :
    ∃ reply entries source', (∀ key, op.Spares key → ∀ e ∈ entries, e.1 ≠ key) ∧
      ∀ c : Contents, op.perform (c, source) = (reply, (c.storing entries, source')) := by
  cases op with
  | todo call => cases h
  | put key value =>
      refine ⟨.put (.ok ()), [(key, value)], source, ?_, fun c => rfl⟩
      intro key' hspares e he
      rw [List.mem_singleton.mp he]
      exact hspares
  | promo call =>
      cases call with
      | validate now input => cases h
      | redeem now input => cases h
      | storeAll codes =>
          refine ⟨.promo (.stored (.ok ())), Promo.entriesOf codes, source, ?_, fun c => ?_⟩
          · intro key hspares
            exact Promo.ne_of_mem_entriesOf hspares
          · change (Reply.promo (onStore (Promo.writeAll codes) .stored (c, source)).1,
              (onStore (Promo.writeAll codes) PromoReply.stored (c, source)).2) = _
            unfold onStore
            rw [Promo.writeAll_table]
      | seed now ids =>
          have hperform : ∀ c : Contents, (promo (.seed now ids)).perform (c, source) =
              (.promo (.seeded (Promo.seed now ids source c).1.1),
                ((Promo.seed now ids source c).2, (Promo.seed now ids source c).1.2)) :=
            fun c => rfl
          simp only [hperform, Promo.seed_table]
          cases hgenerate : Sample.generate now ids source with
          | mk codes? source' =>
              cases codes? with
              | none =>
                  refine ⟨.promo (.seeded (.error .beyondCalendar)), [], source', ?_, fun c => rfl⟩
                  intro key hspares e he
                  cases he
              | some codes =>
                  refine ⟨.promo (.seeded (.ok codes)), Promo.entriesOf codes, source', ?_,
                    fun c => rfl⟩
                  intro key hspares
                  exact Promo.ne_of_mem_entriesOf (Promo.key_ne_of_generate hgenerate hspares)

end Operation
end TodoPromo
