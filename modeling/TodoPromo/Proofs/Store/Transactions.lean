import TodoPromo.Proofs.Store.Outcomes

/-! # Transactions on one key

Every operation of a service reads one value, decides, and writes at most that value back
(`transact`). What a transaction comes to is stated once: on a table (`transact_table`), and on a
table behind a plan of faults (`transact_faulty`), where it either fails and changes nothing or is
done as a whole.

Behind a plan of faults every attempt to write is counted. Reading makes none (`writes_read?`), a
write makes one (`writes_write`), and a transaction makes one at most, and none if it never finds
anything to write (`writes_transact`). -/

namespace TodoPromo

section
variable {σ α β : Type} [Json.Coded α]

/-- The table after a transaction that has a value to write, or none. -/
def Contents.commit (c : Contents) (key : String) : Option α → Contents
  | none => c
  | some a => c.insert key (Json.encode a)

theorem Contents.get?_commit_of_ne {c : Contents} {key key' : String} (h : key ≠ key')
    (next? : Option α) : (c.commit key next?).get? key' = c.get? key' := by
  cases next? with
  | none => rfl
  | some a => exact (Table.get?_insert c key key' (Json.encode a)).trans (if_neg h)

theorem Contents.get?_commit_some (c : Contents) (key : String) (a : α) :
    (c.commit key (some a)).get? key = some (Json.encode a) :=
  (Table.get?_insert c key key (Json.encode a)).trans (if_pos rfl)

namespace KeyValue

/-- Reads a value, decides on the answer and on what to write in its place, and writes that. -/
def transact [KeyValue σ] (key : String) (f : Option α → β × Option α) : Action σ β := do
  let a? ← read? key
  match (f a?).2 with
  | none => return (f a?).1
  | some a =>
    write key a
    return (f a?).1

theorem transact_failed [KeyValue σ] {key : String} {f : Option α → β × Option α} {s s' : σ}
    {e : ActionError} (h : (read? key : Action σ (Option α)).outcome s = (.error e, s')) :
    (transact key f).outcome s = (.error e, s') :=
  Action.outcome_bind_error h

theorem transact_read [KeyValue σ] {key : String} {f : Option α → β × Option α} {s s' : σ}
    {a? : Option α} (h : (read? key).outcome s = (.ok a?, s')) (hf : (f a?).2 = none) :
    (transact key f).outcome s = (.ok (f a?).1, s') := by
  unfold transact
  rw [Action.outcome_bind_ok h, hf]
  rfl

theorem transact_write [KeyValue σ] {key : String} {f : Option α → β × Option α} {s s' s'' : σ}
    {a? : Option α} {a : α} {r : Except ActionError Unit}
    (h : (read? key).outcome s = (.ok a?, s')) (hf : (f a?).2 = some a)
    (hw : (write key a).outcome s' = (r, s'')) :
    (transact key f).outcome s = (r.map fun _ => (f a?).1, s'') := by
  unfold transact
  rw [Action.outcome_bind_ok h, hf]
  cases r with
  | error e => exact Action.outcome_bind_error hw
  | ok u => exact Action.outcome_bind_ok hw

/-! ### On a table -/

theorem transact_table (key : String) (f : Option α → β × Option α) (c : Contents) :
    (transact key f).outcome c =
      match c.stored? key with
      | .ok a? => (.ok (f a?).1, c.commit key (f a?).2)
      | .error e => (.error e, c) := by
  have hread := read?_table (α := α) key c
  cases hs : (c.stored? key : Except ActionError (Option α)) with
  | error e => exact transact_failed (hread.trans (by rw [hs]))
  | ok a? =>
      rw [hs] at hread
      change _ = (Except.ok (f a?).1, c.commit key (f a?).2)
      cases hf : (f a?).2 with
      | none => exact transact_read hread hf
      | some a => exact transact_write hread hf (write_table key a c)

/-! ### Behind a plan of faults -/

/-- What a transaction comes to on a table behind a plan, and the table after it. -/
inductive Settles {φ : Type} [FaultPlan φ] (key : String) (f : Option α → β × Option α) (p : φ)
    (c : Contents) : Except ActionError β → Contents → Prop where
  | failed (e : ActionError) : Settles key f p c (.error e) c
  | done {a? : Option α} (h : c.stored? key = .ok a? ∨ a? = none ∧ FaultPlan.Denies p) :
      Settles key f p c (.ok (f a?).1) (c.commit key (f a?).2)

theorem transact_faulty {φ : Type} [FaultPlan φ] (key : String) (f : Option α → β × Option α)
    (s : Faulty Contents φ) :
    ∃ r c calls writes, (transact key f).outcome s =
        (r, ⟨c, FaultPlan.after calls s.plan, writes⟩) ∧ Settles key f s.plan s.store r c := by
  obtain ⟨r, calls, writes, hread, hr⟩ := read?_faulty (α := α) key s
  cases r with
  | error e => exact ⟨_, _, _, _, transact_failed hread, .failed e⟩
  | ok a? =>
      have hfound : s.store.stored? key = .ok a? ∨ a? = none ∧ FaultPlan.Denies s.plan := by
        obtain hr | ⟨e, he⟩ | ⟨hr, hd⟩ := hr
        · exact .inl hr.symm
        · cases he
        · exact .inr ⟨Except.ok.inj hr, hd⟩
      have hdone := Settles.done (f := f) hfound
      cases hf : (f a?).2 with
      | none =>
          rw [hf] at hdone
          exact ⟨_, _, _, _, transact_read hread hf, hdone⟩
      | some a =>
          obtain ⟨writes', ⟨e, -, hw⟩ | ⟨-, hw⟩⟩ := write_faulty key a (Faulty.asked calls writes s)
          · refine ⟨_, _, calls ++ [.set], writes', ?_, .failed e⟩
            rw [FaultPlan.after_append]
            exact transact_write hread hf hw
          · rw [hf] at hdone
            refine ⟨_, _, calls ++ [.set], writes', ?_, hdone⟩
            rw [FaultPlan.after_append]
            exact transact_write hread hf hw

theorem Settles.get?_of_ne {φ : Type} [FaultPlan φ] {key key' : String}
    {f : Option α → β × Option α} {p : φ} {c c' : Contents} {r : Except ActionError β}
    (h : Settles key f p c r c') (hne : key ≠ key') : c'.get? key' = c.get? key' := by
  cases h with
  | failed e => rfl
  | done h => exact Contents.get?_commit_of_ne hne _

/-- Where the storage alone fails, what is done is done on the stored value. -/
theorem Settles.stored {φ : Type} [FaultPlan φ] {key : String} {f : Option α → β × Option α}
    {p : φ} {c c' : Contents} {b : β} (h : Settles key f p c (.ok b) c')
    (hp : FaultPlan.StorageOnly p) :
    ∃ a?, c.stored? key = .ok a? ∧ b = (f a?).1 ∧ c' = c.commit key (f a?).2 := by
  cases h with
  | done h =>
      obtain h | ⟨-, hd⟩ := h
      · exact ⟨_, h, rfl, rfl⟩
      · exact absurd hd hp.not_denies

end KeyValue
end

/-! ### How often a store is written to -/

variable {σ φ α β : Type} [FaultPlan φ]

theorem Faulty.writes_guard (call : Call) (x : Action σ α) (s : Faulty σ φ) :
    ((guard call x).outcome s).2.writes = if call = .set then s.writes + 1 else s.writes := by
  unfold guard
  rw [Action.outcome_ofFunction]
  cases FaultPlan.strike call s.plan with
  | mk struck plan =>
      cases struck with
      | none => rfl
      | some e => rfl

namespace KeyValue

variable [KeyValue σ] [Json.Coded α]

theorem writes_read? (key : String) (s : Faulty σ φ) :
    ((read? key : Action (Faulty σ φ) (Option α)).outcome s).2.writes = s.writes := by
  have hhas : ((has key : Action (Faulty σ φ) Bool).outcome s).2.writes = s.writes :=
    Faulty.writes_guard .has (has key) s
  cases hout : (has key : Action (Faulty σ φ) Bool).outcome s with
  | mk r s₁ =>
      rw [hout] at hhas
      cases r with
      | error e =>
          rw [read?_failed hout]
          exact hhas
      | ok there =>
          cases there with
          | false =>
              rw [read?_missing hout]
              exact hhas
          | true =>
              have hget : ((get key : Action (Faulty σ φ) Bytes).outcome s₁).2.writes = s₁.writes :=
                Faulty.writes_guard .get (get key) s₁
              cases hfound : (get key : Action (Faulty σ φ) Bytes).outcome s₁ with
              | mk found s₂ =>
                  rw [hfound] at hget
                  rw [read?_found hout hfound]
                  exact hget.trans hhas

theorem writes_write (key : String) (a : α) (s : Faulty σ φ) :
    ((write key a).outcome s).2.writes = s.writes + 1 :=
  Faulty.writes_guard .set (set key (Json.encode a)) s

/-- A transaction writes once if it was to write something, and not at all otherwise. -/
theorem writes_transact (key : String) (f : Option α → β × Option α) (s : Faulty σ φ) :
    ((transact key f).outcome s).2.writes = s.writes ∨
      (∃ a?, (f a?).2 ≠ none) ∧ ((transact key f).outcome s).2.writes = s.writes + 1 := by
  have hread := writes_read? (α := α) key s
  cases hout : (read? key : Action (Faulty σ φ) (Option α)).outcome s with
  | mk r s₁ =>
      rw [hout] at hread
      cases r with
      | error e =>
          rw [transact_failed hout]
          exact .inl hread
      | ok a? =>
          cases hf : (f a?).2 with
          | none =>
              rw [transact_read hout hf]
              exact .inl hread
          | some a =>
              have hwrite := writes_write key a s₁
              rw [transact_write hout hf rfl]
              exact .inr ⟨⟨a?, by simp [hf]⟩, hwrite.trans (congrArg (· + 1) hread)⟩

end KeyValue
end TodoPromo
