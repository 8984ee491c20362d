import TodoPromo.Store.Basic

/-! # Stores that fail

A store behind a plan of faults. Before each call the plan says whether the call fails; a call that
fails does not reach the store. The number of attempts to write is counted, failed ones included. -/

namespace TodoPromo

/-- The three calls of a store. -/
inductive Call where
  | has
  | get
  | set
  deriving DecidableEq, Repr

/-- A plan says of each call in turn whether it fails, and how. -/
class FaultPlan (φ : Type) where
  strike : Call → φ → Option ActionError × φ

/-- Calls of one kind fail: not the first `skip` of them, but the next `times`, or all others if
there is no number. -/
structure FaultRule where
  call : Call
  skip : Nat
  times : Option Nat
  error : ActionError
  deriving DecidableEq, Repr

namespace FaultRule

/-- The rule after it was asked about a call of its own kind, and whether it makes the call
fail. -/
def ask (r : FaultRule) : Bool × FaultRule :=
  if 0 < r.skip then (false, { r with skip := r.skip - 1 })
  else match r.times with
    | none => (true, r)
    | some 0 => (false, r)
    | some (n + 1) => (true, { r with times := some n })

/-- The rules are asked in order until one makes the call fail. -/
def askAll (call : Call) : List FaultRule → Option ActionError × List FaultRule
  | [] => (none, [])
  | r :: rest =>
    if r.call = call then
      match r.ask with
      | (true, r') => (some r.error, r' :: rest)
      | (false, r') =>
        let (e, rest') := askAll call rest
        (e, r' :: rest')
    else
      let (e, rest') := askAll call rest
      (e, r :: rest')

end FaultRule

instance : FaultPlan (List FaultRule) := ⟨FaultRule.askAll⟩

/-- A store, the plan of its faults, and how often it was written to. -/
structure Faulty (σ φ : Type) where
  store : σ
  plan : φ
  writes : Nat

namespace Faulty

variable {σ φ α : Type} [FaultPlan φ]

/-- Makes a call unless the plan lets it fail. -/
def guard (call : Call) (x : Action σ α) : Action (Faulty σ φ) α := .ofFunction fun s =>
  let writes := if call = .set then s.writes + 1 else s.writes
  match FaultPlan.strike call s.plan with
  | (some e, plan) => (.error e, ⟨s.store, plan, writes⟩)
  | (none, plan) =>
    let (r, store) := x.outcome s.store
    (r, ⟨store, plan, writes⟩)

instance [KeyValue σ] : KeyValue (Faulty σ φ) where
  has key := guard .has (KeyValue.has key)
  get key := guard .get (KeyValue.get key)
  set key value := guard .set (KeyValue.set key value)

end Faulty
end TodoPromo
