import TodoPromo.Store.Basic
import TodoPromo.Store.Faults

/-! # Outcomes of actions on stores

What reading and writing a value come to on a table (`read?_table`, `write_table`) and on a table
behind a plan of faults (`read?_faulty`, `write_faulty`): a fault changes nothing but the plan, and
the only value that it can fake is the missing one.

`inTurn` takes one step after another, each of which takes a state to an answer and a next state, and
keeps the answers; two machines whose steps correspond give the same answers in any sequence of steps
(`inTurn_eq`). -/

namespace TodoPromo

/-! ### Steps taken in turn -/

section
variable {ι σ τ α : Type}

/-- The answers to these steps, and the state after all of them. -/
def inTurn (step : ι → σ → α × σ) : List ι → σ → List α × σ
  | [], s => ([], s)
  | x :: xs, s =>
    ((step x s).1 :: (inTurn step xs (step x s).2).1, (inTurn step xs (step x s).2).2)

theorem inTurn_cons {step : ι → σ → α × σ} {x : ι} {s s' : σ} {a : α} (h : step x s = (a, s'))
    (xs : List ι) :
    inTurn step (x :: xs) s = (a :: (inTurn step xs s').1, (inTurn step xs s').2) := by
  rw [inTurn, h]

/-- A relation between the states of two machines that every step keeps, with the same answer on
both sides, is kept by any sequence of these steps, with the same answers. -/
theorem inTurn_eq {step : ι → σ → α × σ} {step' : ι → τ → α × τ} {R : σ → τ → Prop} {xs : List ι}
    (hstep : ∀ x ∈ xs, ∀ s t, R s t →
      (step x s).1 = (step' x t).1 ∧ R (step x s).2 (step' x t).2)
    {s : σ} {t : τ} (h : R s t) :
    (inTurn step xs s).1 = (inTurn step' xs t).1 ∧
      R (inTurn step xs s).2 (inTurn step' xs t).2 := by
  induction xs generalizing s t with
  | nil => exact ⟨rfl, h⟩
  | cons x xs ih =>
      obtain ⟨hanswer, hnext⟩ := hstep x (by simp) s t h
      obtain ⟨hanswers, hend⟩ := ih (fun x' hx' => hstep x' (by simp [hx'])) hnext
      refine ⟨?_, hend⟩
      rw [inTurn, inTurn, hanswer, hanswers]

/-- What every step keeps is kept by any sequence of steps. -/
theorem inTurn_keeps {step : ι → σ → α × σ} {P : σ → Prop} (hstep : ∀ x s, P s → P (step x s).2)
    (xs : List ι) {s : σ} (h : P s) : P (inTurn step xs s).2 := by
  induction xs generalizing s with
  | nil => exact h
  | cons x xs ih => exact ih (hstep x s h)

end

variable {σ α β : Type}

/-! ### Actions in sequence -/

namespace Action

theorem outcome_bind_ok {x : Action σ α} {f : α → Action σ β} {s s' : σ} {a : α}
    (h : x.outcome s = (.ok a, s')) : (x >>= f).outcome s = (f a).outcome s' := by
  change (ExceptT.bindCont f (x.outcome s).1) (x.outcome s).2 = _
  rw [h]
  rfl

theorem outcome_bind_error {x : Action σ α} {f : α → Action σ β} {s s' : σ} {e : ActionError}
    (h : x.outcome s = (.error e, s')) : (x >>= f).outcome s = (.error e, s') := by
  change (ExceptT.bindCont f (x.outcome s).1) (x.outcome s).2 = _
  rw [h]
  rfl

theorem outcome_map (f : α → β) (x : Action σ α) (s : σ) :
    (f <$> x).outcome s = ((x.outcome s).1.map f, (x.outcome s).2) := by
  unfold outcome
  rw [ExceptT.run_map]
  rfl

end Action

/-! ### Tables -/

/-- What the value under a key of a table reads as; `none` if there is none. -/
def Contents.stored? [Json.Coded α] (c : Contents) (key : String) :
    Except ActionError (Option α) :=
  match c.get? key with
  | some bs => KeyValue.decodeFound (.ok bs)
  | none => .ok none

section
variable [Json.Coded α] {c c' : Contents} {key : String}

theorem Contents.stored?_congr (h : c'.get? key = c.get? key) :
    (c'.stored? key : Except ActionError (Option α)) = c.stored? key := by
  unfold stored?
  rw [h]

theorem Contents.stored?_of_get? {bs : Bytes} (h : c.get? key = some bs) {a : α}
    (hs : c.stored? key = .ok (some a)) : Json.decode bs = .ok a := by
  unfold stored? at hs
  rw [h] at hs
  simp only [KeyValue.decodeFound] at hs
  split at hs
  · rename_i b hb
    rw [hb, Option.some.inj (Except.ok.inj hs)]
  · cases hs

theorem Contents.stored?_of_decode {bs : Bytes} (h : c.get? key = some bs) {a : α}
    (ha : Json.decode bs = .ok a) : c.stored? key = .ok (some a) := by
  unfold stored?
  simp only [h, KeyValue.decodeFound, ha]

theorem Contents.stored?_of_decode_error {bs : Bytes} (h : c.get? key = some bs) {e : Json.Failure}
    (he : (Json.decode bs : Except Json.Failure α) = .error e) :
    (c.stored? key : Except ActionError (Option α)) = .error (.storage e.message) := by
  unfold stored?
  simp only [h, KeyValue.decodeFound, he]

end

namespace KeyValue

variable [Json.Coded α]

theorem read?_missing [KeyValue σ] {key : String} {s s' : σ}
    (h : (has key).outcome s = (.ok false, s')) :
    (read? key : Action σ (Option α)).outcome s = (.ok none, s') := by
  unfold read?
  rw [Action.outcome_bind_ok h]
  rfl

theorem read?_failed [KeyValue σ] {key : String} {s s' : σ} {e : ActionError}
    (h : (has key).outcome s = (.error e, s')) :
    (read? key : Action σ (Option α)).outcome s = (.error e, s') :=
  Action.outcome_bind_error h

theorem read?_found [KeyValue σ] {key : String} {s s' s'' : σ} {found : Except ActionError Bytes}
    (h : (has key).outcome s = (.ok true, s')) (hg : (get key).outcome s' = (found, s'')) :
    (read? key : Action σ (Option α)).outcome s = (decodeFound found, s'') := by
  unfold read?
  rw [Action.outcome_bind_ok h, if_pos rfl, Action.outcome_ofFunction, hg]

theorem get_of_some {c : Contents} {key : String} {bs : Bytes} (h : c.get? key = some bs) :
    (get key : Action Contents Bytes).outcome c = (.ok bs, c) := by
  unfold get instKeyValueContents
  simp only [Action.outcome_ofFunction, h]

theorem get_of_none {c : Contents} {key : String} (h : c.get? key = none) :
    (get key : Action Contents Bytes).outcome c = (.error (keyMissing key), c) := by
  unfold get instKeyValueContents
  simp only [Action.outcome_ofFunction, h]

theorem read?_table (key : String) (c : Contents) :
    (read? key : Action Contents (Option α)).outcome c = (c.stored? key, c) := by
  unfold Contents.stored?
  cases hc : c.get? key with
  | none =>
      refine read?_missing ?_
      change (Except.ok (c.get? key).isSome, c) = _
      rw [hc]
      rfl
  | some bs =>
      have hhas : (has key : Action Contents Bool).outcome c = (.ok true, c) := by
        change (Except.ok (c.get? key).isSome, c) = _
        rw [hc]
        rfl
      exact read?_found hhas (get_of_some hc)

theorem write_table (key : String) (a : α) (c : Contents) :
    (write key a).outcome c = (.ok (), c.insert key (Json.encode a)) := rfl

end KeyValue

/-! ### Plans of faults -/

namespace FaultPlan

variable {φ : Type} [FaultPlan φ]

/-- The plan when these calls were made. -/
def after : List Call → φ → φ
  | [], p => p
  | call :: calls, p => after calls (strike call p).2

/-- Some call to get a value fails with the word that there is none. -/
def Denies (p : φ) : Prop := ∃ calls detail, (strike .get (after calls p)).1 = some (.notFound detail)

/-- All faults are failures of the storage. -/
def StorageOnly (p : φ) : Prop :=
  ∀ calls call e, (strike call (after calls p)).1 = some e → ∃ detail, e = .storage detail

theorem after_append (calls calls' : List Call) (p : φ) :
    after (calls ++ calls') p = after calls' (after calls p) := by
  induction calls generalizing p with
  | nil => rfl
  | cons call calls ih => exact ih (strike call p).2

theorem StorageOnly.after {p : φ} (h : StorageOnly p) (calls : List Call) :
    StorageOnly (after calls p) := by
  intro calls' call e he
  rw [← after_append] at he
  exact h _ call e he

theorem StorageOnly.not_denies {p : φ} (h : StorageOnly p) : ¬ Denies p := by
  rintro ⟨calls, detail, hd⟩
  obtain ⟨detail', hs⟩ := h calls .get _ hd
  cases hs

end FaultPlan

/-- The errors of a list of rules stay the errors of its rules. -/
theorem FaultRule.errors_askAll (call : Call) (rules : List FaultRule) :
    (askAll call rules).2.map FaultRule.error = rules.map FaultRule.error ∧
      ∀ e, (askAll call rules).1 = some e → e ∈ rules.map FaultRule.error := by
  have hask : ∀ r : FaultRule, r.ask.2.error = r.error := by
    intro r
    unfold FaultRule.ask
    repeat' split
    all_goals rfl
  induction rules with
  | nil => exact ⟨rfl, fun e he => by cases he⟩
  | cons r rest ih =>
      unfold askAll
      by_cases hc : r.call = call
      · rw [if_pos hc]
        have hr := hask r
        cases ha : r.ask with
        | mk struck r' =>
            rw [ha] at hr
            cases struck with
            | true => exact ⟨by simp [← hr], fun e he => by simp_all⟩
            | false => exact ⟨by simp [← hr, ih.1], fun e he => List.mem_cons_of_mem _ (ih.2 e he)⟩
      · rw [if_neg hc]
        exact ⟨by simp [ih.1], fun e he => List.mem_cons_of_mem _ (ih.2 e he)⟩

theorem FaultRule.storageOnly {rules : List FaultRule}
    (h : ∀ e ∈ rules.map FaultRule.error, ∃ detail, e = .storage detail) :
    FaultPlan.StorageOnly rules := by
  intro calls call e he
  induction calls generalizing rules with
  | nil => exact h e ((errors_askAll call rules).2 e he)
  | cons call' calls ih =>
      have hrest : ∀ e ∈ (askAll call' rules).2.map FaultRule.error, ∃ detail, e = .storage detail := by
        rw [(errors_askAll call' rules).1]
        exact h
      exact ih hrest he

/-! ### Tables behind a plan of faults -/

namespace Faulty

variable {φ : Type} [FaultPlan φ]

/-- The state when these calls were made, none of which changed the store. -/
def asked (calls : List Call) (writes : Nat) (s : Faulty Contents φ) : Faulty Contents φ :=
  ⟨s.store, FaultPlan.after calls s.plan, writes⟩

theorem guard_outcome (call : Call) (x : Action Contents α) (s : Faulty Contents φ) :
    ∃ writes,
      (∃ e, (FaultPlan.strike call s.plan).1 = some e ∧
        (guard call x).outcome s = (.error e, asked [call] writes s)) ∨
      (FaultPlan.strike call s.plan).1 = none ∧ (guard call x).outcome s =
        ((x.outcome s.store).1, ⟨(x.outcome s.store).2, FaultPlan.after [call] s.plan, writes⟩) := by
  refine ⟨if call = .set then s.writes + 1 else s.writes, ?_⟩
  unfold guard asked
  rw [Action.outcome_ofFunction]
  simp only [FaultPlan.after]
  cases hs : FaultPlan.strike call s.plan with
  | mk struck plan =>
      cases struck with
      | none => exact .inr ⟨rfl, rfl⟩
      | some e => exact .inl ⟨e, rfl, rfl⟩

end Faulty

namespace KeyValue

variable {φ : Type} [FaultPlan φ] [Json.Coded α]

/-- A read under faults leaves the store alone. It comes to what is stored, or fails, or finds
nothing when the store denies that there is a value. -/
theorem read?_faulty (key : String) (s : Faulty Contents φ) :
    ∃ r calls writes,
      (read? key : Action (Faulty Contents φ) (Option α)).outcome s =
        (r, Faulty.asked calls writes s) ∧
      (r = s.store.stored? key ∨ (∃ e, r = .error e) ∨ r = .ok none ∧ FaultPlan.Denies s.plan) := by
  obtain ⟨writes, ⟨e, -, he⟩ | ⟨-, hhas⟩⟩ :=
    Faulty.guard_outcome .has (has key : Action Contents Bool) s
  · exact ⟨_, _, _, read?_failed he, .inr (.inl ⟨e, rfl⟩)⟩
  have htable : (read? key : Action Contents (Option α)).outcome s.store =
      (s.store.stored? key, s.store) := read?_table key s.store
  cases hc : s.store.contains key with
  | false =>
      change (has key).outcome s = (.ok (s.store.contains key), _) at hhas
      rw [hc] at hhas
      refine ⟨_, _, _, read?_missing hhas, .inl ?_⟩
      have hmissing : (has key : Action Contents Bool).outcome s.store = (.ok false, s.store) := by
        rw [← hc]
        rfl
      rw [read?_missing hmissing] at htable
      exact congrArg Prod.fst htable
  | true =>
      change (has key).outcome s = (.ok (s.store.contains key), _) at hhas
      rw [hc] at hhas
      obtain ⟨writes', ⟨e, hd, he⟩ | ⟨-, hget⟩⟩ := Faulty.guard_outcome .get
        (get key : Action Contents Bytes) (Faulty.asked [.has] writes s)
      · refine ⟨_, [.has, .get], writes', read?_found hhas he, .inr ?_⟩
        cases e with
        | notFound detail => exact .inr ⟨rfl, [.has], detail, hd⟩
        | validation detail => exact .inl ⟨_, rfl⟩
        | storage detail => exact .inl ⟨_, rfl⟩
      · refine ⟨_, [.has, .get], writes', read?_found hhas hget, .inl ?_⟩
        have hfound : (has key : Action Contents Bool).outcome s.store = (.ok true, s.store) := by
          rw [← hc]
          rfl
        have hbytes : (get key : Action Contents Bytes).outcome s.store =
            (((get key : Action Contents Bytes).outcome s.store).1, s.store) := rfl
        rw [read?_found hfound hbytes] at htable
        exact congrArg Prod.fst htable

/-- A write under faults is done or fails; it does not change the store when it fails. -/
theorem write_faulty (key : String) (a : α) (s : Faulty Contents φ) :
    ∃ writes,
      (∃ e, (FaultPlan.strike .set s.plan).1 = some e ∧
        (write key a).outcome s = (.error e, Faulty.asked [.set] writes s)) ∨
      (FaultPlan.strike .set s.plan).1 = none ∧ (write key a).outcome s =
        (.ok (), ⟨s.store.insert key (Json.encode a), FaultPlan.after [.set] s.plan, writes⟩) :=
  Faulty.guard_outcome .set (set key (Json.encode a) : Action Contents Unit) s

end KeyValue
end TodoPromo
