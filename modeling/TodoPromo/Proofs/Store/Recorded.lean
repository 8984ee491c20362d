import TodoPromo.Proofs.Store.Agreement

/-! # Recorded calls

A store can take down the calls that are made to it, the failing ones included. It answers them as it
would otherwise (`Recorded.agree`), so the record says of an action on any store which calls it makes
(`Recorded.outcome_writeAll`).

Of a plan of faults the record of writes in a row needs two things only: how the write fails that
comes after so many others, and the number of writes before the first one that fails. -/

namespace TodoPromo

/-- A call that was made; it is a write if it comes with a value. -/
structure Made where
  call : Call
  key : String
  value? : Option Bytes
  deriving DecidableEq

/-- A store, and the calls that were made to it so far. -/
structure Recorded (σ : Type) where
  store : σ
  calls : List Made

namespace Recorded

variable {σ α : Type}

/-- Makes a call, and takes it down. -/
def note (made : Made) (x : Action σ α) : Action (Recorded σ) α := .ofFunction fun s =>
  let (r, store) := x.outcome s.store
  (r, ⟨store, s.calls ++ [made]⟩)

instance [KeyValue σ] : KeyValue (Recorded σ) where
  has key := note ⟨.has, key, none⟩ (KeyValue.has key)
  get key := note ⟨.get, key, none⟩ (KeyValue.get key)
  set key value := note ⟨.set, key, some value⟩ (KeyValue.set key value)

/-- The recorded store is the store. -/
def Of (s : Recorded σ) (t : σ) : Prop := s.store = t

/-- The same error, of a recorded store that is the store. -/
def Fails (e e' : ActionError) (s : Recorded σ) (t : σ) : Prop := e = e' ∧ s.store = t

theorem note_agree (made : Made) (x : Action σ α) : Action.Agree Of Fails (note made x) x := by
  rintro s t rfl
  unfold note
  rw [Action.outcome_ofFunction]
  cases x.outcome s.store with
  | mk r s' =>
      cases r with
      | ok a => exact .ok rfl
      | error e => exact .error ⟨rfl, rfl⟩

/-- To be recorded changes none of the answers of a store. -/
theorem agree [Json.Coded α] [KeyValue σ] : StoresAgree α (Of (σ := σ)) Fails where
  has key := note_agree _ (KeyValue.has key)
  set key value := note_agree _ (KeyValue.set key value)
  found key s t h := by
    obtain rfl := h
    change Meets Of Fails
      (KeyValue.decodeFound ((KeyValue.get key : Action σ Bytes).outcome s.store).1,
        (⟨((KeyValue.get key : Action σ Bytes).outcome s.store).2, _⟩ : Recorded σ)) _
    cases (KeyValue.get key : Action σ Bytes).outcome s.store with
    | mk r t =>
        cases (KeyValue.decodeFound r : Except ActionError (Option α)) with
        | ok a? => exact .ok rfl
        | error e => exact .error ⟨rfl, rfl⟩

/-- Codes are written to a recorded store as they are to the store itself. -/
theorem outcome_writeAll [KeyValue σ] (codes : List PromoCode) (s : Recorded σ) :
    (Promo.writeAll codes).outcome s.store =
      (((Promo.writeAll codes).outcome s).1, ((Promo.writeAll codes).outcome s).2.store) := by
  have hmeets := (agree (α := PromoCode)).writeAll codes s s.store rfl
  generalize (Promo.writeAll codes).outcome s = out,
    (Promo.writeAll codes : Action σ Unit).outcome s.store = plain at hmeets
  cases hmeets with
  | ok h => rw [← h]
  | error h => rw [h.1, ← h.2]

end Recorded

namespace FaultPlan

variable {φ : Type} [FaultPlan φ] {p : φ}

/-- How a write fails that comes after `n` other writes; `none` if it does not. -/
def writeFault? (p : φ) (n : Nat) : Option ActionError :=
  (strike .set (after (List.replicate n .set) p)).1

/-- How many of `n` writes in a row come before the first one that fails; all if none does. -/
def writesBefore (p : φ) (n : Nat) : Nat :=
  (List.range n).findIdx fun k => (writeFault? p k).isSome

theorem writesBefore_succ (p : φ) (n : Nat) :
    writesBefore p (n + 1) =
      if (strike .set p).1.isSome then 0 else writesBefore (after [.set] p) n + 1 := by
  have hlater : (fun k => (writeFault? p k).isSome) ∘ Nat.succ =
      fun k => (writeFault? (after [.set] p) k).isSome := rfl
  unfold writesBefore
  rw [List.range_succ_eq_map, List.findIdx_cons, List.findIdx_map, hlater]
  cases h : (strike .set p).1 with
  | none => simp [writeFault?, after, h]
  | some e => simp [writeFault?, after, h]

end FaultPlan
end TodoPromo
