import TodoPromo.Promo.Service
import TodoPromo.Proofs.Http.Answers
import TodoPromo.Proofs.Store.Transactions

/-! # The same action on two stores

Two stores whose calls come to the same, or fail in related ways, cannot be told apart by the actions
that are built from their calls: a transaction (`StoresAgree.transact`) and the writing of codes
(`StoresAgree.writeAll`) come to the same on both, or fail on both. `R` relates the states of the
stores between calls, and `E` says which failures correspond, and in which states. A store without faults
(`FaultFree`) is one that cannot be told apart from a table. -/

namespace TodoPromo

variable {σ τ α β : Type} {R : σ → τ → Prop} {E : ActionError → ActionError → σ → τ → Prop}

/-- Two outcomes that correspond: the same value in related states, or failures that correspond. -/
inductive Meets (R : σ → τ → Prop) (E : ActionError → ActionError → σ → τ → Prop) :
    Except ActionError α × σ → Except ActionError α × τ → Prop where
  | ok {a : α} {s : σ} {t : τ} (h : R s t) : Meets R E (.ok a, s) (.ok a, t)
  | error {e e' : ActionError} {s : σ} {t : τ} (h : E e e' s t) :
      Meets R E (.error e, s) (.error e', t)

namespace Action

/-- The actions have corresponding outcomes in all related states. -/
def Agree (R : σ → τ → Prop) (E : ActionError → ActionError → σ → τ → Prop) (x : Action σ α)
    (y : Action τ α) : Prop :=
  ∀ s t, R s t → Meets R E (x.outcome s) (y.outcome t)

theorem agree_pure (a : α) : Agree R E (pure a) (pure a) := fun _ _ h => .ok h

theorem Agree.bind {x : Action σ α} {y : Action τ α} {f : α → Action σ β} {g : α → Action τ β}
    (hx : Agree R E x y) (hf : ∀ a, Agree R E (f a) (g a)) : Agree R E (x >>= f) (y >>= g) := by
  intro s t h
  have hmeets := hx s t h
  cases hs : x.outcome s with
  | mk r s' =>
      cases ht : y.outcome t with
      | mk r' t' =>
          rw [hs, ht] at hmeets
          cases hmeets with
          | ok h' =>
              rw [outcome_bind_ok hs, outcome_bind_ok ht]
              exact hf _ s' t' h'
          | error h' =>
              rw [outcome_bind_error hs, outcome_bind_error ht]
              exact .error h'

end Action

open TodoPromo.Action

/-- The calls of two stores correspond. What is got from them need not be the same bytes, as long as
reading a value of this type from them comes to the same. -/
structure StoresAgree (α : Type) [Json.Coded α] [KeyValue σ] [KeyValue τ] (R : σ → τ → Prop)
    (E : ActionError → ActionError → σ → τ → Prop) : Prop where
  has : ∀ key, Agree R E (KeyValue.has key : Action σ Bool) (KeyValue.has key)
  found : ∀ key s t, R s t →
    Meets R E
      ((KeyValue.decodeFound (KeyValue.get key |>.outcome s).1 : Except ActionError (Option α)),
        (KeyValue.get key |>.outcome s).2)
      (KeyValue.decodeFound (KeyValue.get key |>.outcome t).1,
        (KeyValue.get key |>.outcome t).2)
  set : ∀ key value, Agree R E (KeyValue.set key value : Action σ Unit) (KeyValue.set key value)

namespace StoresAgree

variable [Json.Coded α] [KeyValue σ] [KeyValue τ]

theorem read? (h : StoresAgree α R E) (key : String) :
    Agree R E (KeyValue.read? key : Action σ (Option α)) (KeyValue.read? key) := by
  refine (h.has key).bind fun there => ?_
  cases there with
  | false => exact agree_pure none
  | true => exact h.found key

theorem transact (h : StoresAgree α R E) (key : String) (f : Option α → β × Option α) :
    Agree R E (KeyValue.transact key f : Action σ β) (KeyValue.transact key f) := by
  refine (h.read? key).bind fun a? => ?_
  cases (f a?).2 with
  | none => exact agree_pure _
  | some a => exact (h.set key (Json.encode a)).bind fun _ => agree_pure _

theorem writeAll (h : StoresAgree α R E) (codes : List PromoCode) :
    Agree R E (Promo.writeAll codes : Action σ Unit) (Promo.writeAll codes) := by
  induction codes with
  | nil => exact agree_pure ()
  | cons c codes ih => exact (h.set c.key (Json.encode c)).bind fun _ => ih

end StoresAgree

/-! ### Stores without faults -/

/-- The same error, in related states. -/
def SameError (R : σ → τ → Prop) (e e' : ActionError) (s : σ) (t : τ) : Prop := e = e' ∧ R s t

theorem agree_self (x : Action σ α) : Agree Eq (SameError Eq) x x := by
  rintro s t rfl
  cases x.outcome s with
  | mk r s' =>
      cases r with
      | ok a => exact .ok rfl
      | error e => exact .error ⟨rfl, rfl⟩

/-- In a state in which the store holds a table, its calls come to what they come to on that table, and
then it holds what the table has become. -/
structure FaultFree [KeyValue σ] (R : σ → Contents → Prop) : Prop where
  has : ∀ key, Agree R (SameError R) (KeyValue.has key : Action σ Bool) (KeyValue.has key)
  get : ∀ key, Agree R (SameError R) (KeyValue.get key : Action σ Bytes) (KeyValue.get key)
  set : ∀ key value, Agree R (SameError R) (KeyValue.set key value : Action σ Unit)
    (KeyValue.set key value)

/-- A table is a store without faults. -/
theorem faultFree_table : FaultFree (Eq : Contents → Contents → Prop) :=
  ⟨fun _ => agree_self _, fun _ => agree_self _, fun _ _ => agree_self _⟩

theorem FaultFree.storesAgree [Json.Coded α] [KeyValue σ] {R : σ → Contents → Prop} (h : FaultFree R) :
    StoresAgree α R (SameError R) where
  has := h.has
  found key s t hst := by
    have hmeets := h.get key s t hst
    cases hs : (KeyValue.get key : Action σ Bytes).outcome s with
    | mk r s' =>
        cases ht : (KeyValue.get key : Action Contents Bytes).outcome t with
        | mk r' t' =>
            rw [hs, ht] at hmeets
            have hboth : r = r' ∧ R s' t' := by
              cases hmeets with
              | ok h' => exact ⟨rfl, h'⟩
              | error h' => exact ⟨congrArg Except.error h'.1, h'.2⟩
            obtain ⟨rfl, h'⟩ := hboth
            dsimp only
            cases (KeyValue.decodeFound r : Except ActionError (Option α)) with
            | ok a? => exact .ok h'
            | error e => exact .error ⟨rfl, h'⟩
  set := h.set

/-! ### Answers -/

open Http

/-- Two answers to a request that correspond: the same, which reports no failure of the store, or
the reports of failures that correspond. -/
inductive AnswersMeet (R : σ → τ → Prop) (E : ActionError → ActionError → σ → τ → Prop)
    (r : Request) : Response × σ → Response × τ → Prop where
  | same {a : Response} {s : σ} {t : τ} (hstatus : a.status ≠ 500) (h : R s t) :
      AnswersMeet R E r (a, s) (a, t)
  | failed {e e' : ActionError} {s : σ} {t : τ} (h : E e e' s t) :
      AnswersMeet R E r (((Response.ofActionError e).sentTo r).shared r, s)
        (((Response.ofActionError e').sentTo r).shared r, t)

/-- The answers to actions with corresponding outcomes correspond. -/
theorem Action.Agree.answer {x : Action σ α} {y : Action τ α} (h : Agree R E x y) (r : Request)
    {f : α → Response} (hf : ∀ a, (f a).status ≠ 500) {s : σ} {t : τ} (hst : R s t) :
    AnswersMeet R E r (((Http.answer x f s).1.sentTo r).shared r, (Http.answer x f s).2)
      (((Http.answer y f t).1.sentTo r).shared r, (Http.answer y f t).2) := by
  have hmeets := h s t hst
  cases hs : x.outcome s with
  | mk u s' =>
      cases ht : y.outcome t with
      | mk u' t' =>
          rw [hs, ht] at hmeets
          cases hmeets with
          | @ok a _ _ h' =>
              rw [answer_ok hs, answer_ok ht]
              refine .same ?_ h'
              change ((f a).sentTo r).status ≠ 500
              rw [Response.status_sentTo]
              exact hf a
          | error h' =>
              rw [answer_error hs, answer_error ht]
              exact .failed h'

end TodoPromo
