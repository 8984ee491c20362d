import Mathlib.Data.List.Forall2
import TodoPromo.Proofs.Store.Agreement

/-! # Stores that differ in what a client must not see

Two stores are alike for the readers of a type of values if their calls come to the same, apart from
the details of failures of the storage and from bytes that read as no such value (`StoresAlike`).
Alike are the same rules of faults with other details, on tables whose unreadable entries differ
(`Faulty.storesAlike`). A store can also be watched: the store itself goes on as it would, and a flag
tells whether one of its calls failed for the storage's sake or handed out unreadable bytes
(`Watched`). -/

namespace TodoPromo

open Http

variable {σ τ φ φ' α β : Type}

/-! ### Alike outcomes -/

/-- The same error, or two failures of the storage. -/
inductive ActionError.Alike : ActionError → ActionError → Prop where
  | same (e : ActionError) : Alike e e
  | storage (detail detail' : String) : Alike (.storage detail) (.storage detail')

theorem ActionError.Alike.shown {e e' : ActionError} (h : e.Alike e') :
    Response.ofActionError e = Response.ofActionError e' := by
  cases h with
  | same e => rfl
  | storage detail detail' => rfl

/-- Whether bytes read as a value of this type. -/
def Json.Readable (α : Type) [Json.Coded α] (bs : Bytes) : Prop := ∃ a : α, Json.decode bs = .ok a

/-- The same bytes, or bytes neither of which reads as a value of this type. -/
def BytesAlike (α : Type) [Json.Coded α] (bs bs' : Bytes) : Prop :=
  bs = bs' ∨ ¬ Json.Readable α bs ∧ ¬ Json.Readable α bs'

/-- Two outcomes with alike values or alike errors. -/
inductive OutcomesAlike (V : β → β → Prop) : Except ActionError β → Except ActionError β → Prop where
  | ok {b b' : β} (h : V b b') : OutcomesAlike V (.ok b) (.ok b')
  | error {e e' : ActionError} (h : e.Alike e') : OutcomesAlike V (.error e) (.error e')

theorem OutcomesAlike.refl : ∀ r : Except ActionError β, OutcomesAlike Eq r r
  | .ok _ => .ok rfl
  | .error e => .error (.same e)

/-- In related states the actions have alike outcomes, and leave related states. -/
def Action.Alike (V : β → β → Prop) (R : σ → τ → Prop) (x : Action σ β) (y : Action τ β) : Prop :=
  ∀ s t, R s t →
    OutcomesAlike V (x.outcome s).1 (y.outcome t).1 ∧ R (x.outcome s).2 (y.outcome t).2

/-- The calls of two stores are alike in related states: they differ in the details of failures of
the storage at most, and in bytes that do not read as a value of this type. -/
structure StoresAlike (α : Type) [Json.Coded α] [KeyValue σ] [KeyValue τ] (R : σ → τ → Prop) :
    Prop where
  has : ∀ key, Action.Alike Eq R (KeyValue.has key : Action σ Bool) (KeyValue.has key)
  get : ∀ key,
    Action.Alike (BytesAlike α) R (KeyValue.get key : Action σ Bytes) (KeyValue.get key)
  set : ∀ key value, Action.Alike Eq R (KeyValue.set key value : Action σ Unit)
    (KeyValue.set key value)

/-- Failures that are shown in the same way, in related states. -/
def ShownAlike (R : σ → τ → Prop) (e e' : ActionError) (s : σ) (t : τ) : Prop :=
  Response.ofActionError e = Response.ofActionError e' ∧ R s t

theorem OutcomesAlike.meets {R : σ → τ → Prop} {r r' : Except ActionError β} {s : σ} {t : τ}
    (h : OutcomesAlike Eq r r') (hst : R s t) : Meets R (ShownAlike R) (r, s) (r', t) := by
  cases h with
  | ok h =>
      subst h
      exact .ok hst
  | error h => exact .error ⟨h.shown, hst⟩

theorem KeyValue.decodeFound_unreadable [Json.Coded α] {bs : Bytes} (h : ¬ Json.Readable α bs) :
    ∃ detail, (decodeFound (.ok bs) : Except ActionError (Option α)) = .error (.storage detail) := by
  cases hbs : (Json.decode bs : Except Json.Failure α) with
  | ok a => exact absurd ⟨a, hbs⟩ h
  | error e => exact ⟨e.message, by simp only [decodeFound, hbs]⟩

theorem OutcomesAlike.decodeFound [Json.Coded α] {r r' : Except ActionError Bytes}
    (h : OutcomesAlike (BytesAlike α) r r') :
    OutcomesAlike Eq (KeyValue.decodeFound r : Except ActionError (Option α))
      (KeyValue.decodeFound r') := by
  cases h with
  | @ok bs bs' h =>
      obtain rfl | ⟨hbs, hbs'⟩ := h
      · exact .refl _
      · obtain ⟨detail, h⟩ := KeyValue.decodeFound_unreadable hbs
        obtain ⟨detail', h'⟩ := KeyValue.decodeFound_unreadable hbs'
        rw [h, h']
        exact .error (.storage detail detail')
  | error h =>
      cases h with
      | storage detail detail' => exact .error (.storage detail detail')
      | same e => exact .refl _

theorem StoresAlike.agree [Json.Coded α] [KeyValue σ] [KeyValue τ] {R : σ → τ → Prop}
    (h : StoresAlike α R) : StoresAgree α R (ShownAlike R) where
  has key s t hst := (h.has key s t hst).1.meets (h.has key s t hst).2
  found key s t hst := (h.get key s t hst).1.decodeFound.meets (h.get key s t hst).2
  set key value s t hst := (h.set key value s t hst).1.meets (h.set key value s t hst).2

/-! ### Alike faults and alike tables -/

/-- After any calls, the plans strike alike. -/
def FaultPlan.Alike [FaultPlan φ] [FaultPlan φ'] (p : φ) (p' : φ') : Prop :=
  ∀ calls call, Option.Rel ActionError.Alike (strike call (after calls p)).1
    (strike call (after calls p')).1

/-- The entries of two tables are alike. -/
def Contents.Alike (α : Type) [Json.Coded α] (c c' : Contents) : Prop :=
  ∀ key, Option.Rel (BytesAlike α) (c.get? key) (c'.get? key)

/-- Alike tables behind plans that strike alike. -/
structure Faulty.Alike (α : Type) [Json.Coded α] [FaultPlan φ] [FaultPlan φ']
    (s : Faulty Contents φ) (t : Faulty Contents φ') : Prop where
  store : s.store.Alike α t.store
  plan : FaultPlan.Alike s.plan t.plan

theorem FaultPlan.Alike.after [FaultPlan φ] [FaultPlan φ'] {p : φ} {p' : φ'}
    (h : FaultPlan.Alike p p') (calls : List Call) :
    FaultPlan.Alike (after calls p) (after calls p') := by
  intro calls' call
  rw [← after_append, ← after_append]
  exact h (calls ++ calls') call

theorem Contents.Alike.insert [Json.Coded α] {c c' : Contents} (h : c.Alike α c') (key : String)
    {value value' : Bytes} (hvalue : BytesAlike α value value') :
    Contents.Alike α (c.insert key value) (c'.insert key value') := by
  intro key'
  rw [Table.get?_insert, Table.get?_insert]
  by_cases hkey : key = key'
  · rw [if_pos hkey, if_pos hkey]
    exact .some hvalue
  · rw [if_neg hkey, if_neg hkey]
    exact h key'

/-- A rule of faults with other details of a failing storage. -/
structure FaultRule.Alike (r r' : FaultRule) : Prop where
  call : r.call = r'.call
  skip : r.skip = r'.skip
  times : r.times = r'.times
  error : r.error.Alike r'.error

theorem FaultRule.Alike.ask {r r' : FaultRule} (h : r.Alike r') :
    r.ask.1 = r'.ask.1 ∧ r.ask.2.Alike r'.ask.2 := by
  obtain ⟨call, skip, times, e⟩ := r
  obtain ⟨call', skip', times', e'⟩ := r'
  obtain ⟨rfl, rfl, rfl, herror⟩ := h
  unfold FaultRule.ask
  by_cases hskip : 0 < skip
  · simp only [if_pos hskip]
    exact ⟨trivial, rfl, rfl, rfl, herror⟩
  · simp only [if_neg hskip]
    cases times with
    | none => exact ⟨rfl, rfl, rfl, rfl, herror⟩
    | some n =>
        cases n with
        | zero => exact ⟨rfl, rfl, rfl, rfl, herror⟩
        | succ n => exact ⟨rfl, rfl, rfl, rfl, herror⟩

theorem FaultRule.Alike.askAll (call : Call) {rules rules' : List FaultRule}
    (h : List.Forall₂ FaultRule.Alike rules rules') :
    Option.Rel ActionError.Alike (FaultRule.askAll call rules).1 (FaultRule.askAll call rules').1 ∧
      List.Forall₂ FaultRule.Alike (FaultRule.askAll call rules).2
        (FaultRule.askAll call rules').2 := by
  induction h with
  | nil => exact ⟨.none, .nil⟩
  | @cons r r' rest rest' hr hrest ih =>
      unfold FaultRule.askAll
      by_cases hcall : r.call = call
      · rw [if_pos hcall, if_pos (hr.call ▸ hcall)]
        obtain ⟨hstruck, hnext⟩ := hr.ask
        cases hask : r.ask with
        | mk struck next =>
            cases hask' : r'.ask with
            | mk struck' next' =>
                rw [hask, hask'] at hstruck hnext
                cases hstruck
                cases struck with
                | true => exact ⟨.some hr.error, .cons hnext hrest⟩
                | false => exact ⟨ih.1, .cons hnext ih.2⟩
      · rw [if_neg hcall, if_neg (hr.call ▸ hcall)]
        exact ⟨ih.1, .cons hr ih.2⟩

/-- Rules that differ in the details of a failing storage alone strike alike. -/
theorem FaultRule.plansAlike {rules rules' : List FaultRule}
    (h : List.Forall₂ FaultRule.Alike rules rules') : FaultPlan.Alike rules rules' := by
  intro calls call
  induction calls generalizing rules rules' with
  | nil => exact (FaultRule.Alike.askAll call h).1
  | cons call' calls ih => exact ih (FaultRule.Alike.askAll call' h).2

theorem Faulty.guard_alike [Json.Coded α] [FaultPlan φ] [FaultPlan φ'] (call : Call)
    {V : β → β → Prop} {x : Action Contents β}
    (hx : Action.Alike V (Contents.Alike α) x x) :
    Action.Alike V (fun (s : Faulty Contents φ) (t : Faulty Contents φ') => s.Alike α t)
      (guard call x) (guard call x) := by
  intro s t h
  have hstrike := h.plan [] call
  have hafter := h.plan.after [call]
  obtain ⟨hvalue, hstore⟩ := hx s.store t.store h.store
  unfold guard
  rw [Action.outcome_ofFunction, Action.outcome_ofFunction]
  simp only [FaultPlan.after] at hstrike hafter
  cases hs : FaultPlan.strike call s.plan with
  | mk struck plan =>
      cases ht : FaultPlan.strike call t.plan with
      | mk struck' plan' =>
          rw [hs, ht] at hstrike hafter
          cases hstrike with
          | some he => exact ⟨.error he, h.store, hafter⟩
          | none => exact ⟨hvalue, hstore, hafter⟩

theorem Faulty.storesAlike [Json.Coded α] [FaultPlan φ] [FaultPlan φ'] :
    StoresAlike α fun (s : Faulty Contents φ) (t : Faulty Contents φ') => s.Alike α t where
  has key := by
    refine guard_alike .has fun c c' h => ⟨.ok ?_, h⟩
    change (c.get? key).isSome = (c'.get? key).isSome
    have hkey := h key
    generalize c.get? key = v, c'.get? key = v' at hkey ⊢
    cases hkey with
    | some _ => rfl
    | none => rfl
  get key := by
    refine guard_alike .get fun c c' h => ⟨?_, h⟩
    have hkey := h key
    generalize hc : c.get? key = v, hc' : c'.get? key = v' at hkey
    cases hkey with
    | some h =>
        rw [KeyValue.get_of_some hc, KeyValue.get_of_some hc']
        exact .ok h
    | none =>
        rw [KeyValue.get_of_none hc, KeyValue.get_of_none hc']
        exact .error (.same _)
  set key value := guard_alike .set fun c c' h => ⟨.ok rfl, h.insert key (.inl rfl)⟩

/-! ### Watched stores -/

/-- A store, and whether one of its calls failed for the storage's sake or handed out bytes that do
not read as a value of this type. -/
structure Watched (α σ : Type) where
  store : σ
  failed : Bool

/-- Whether this is a failure of the storage. -/
def ActionError.isStorage : ActionError → Bool
  | storage _ => true
  | _ => false

theorem ActionError.isStorage_iff {e : ActionError} :
    e.isStorage = true ↔ ∃ detail, e = .storage detail := by
  cases e with
  | storage detail => exact ⟨fun _ => ⟨detail, rfl⟩, fun _ => rfl⟩
  | validation detail => exact ⟨fun h => (nomatch h), fun ⟨_, h⟩ => nomatch h⟩
  | notFound detail => exact ⟨fun h => (nomatch h), fun ⟨_, h⟩ => nomatch h⟩

namespace Watched

/-- Whether an outcome is a failure of the storage, or an unusable value. -/
def fails (unusable : β → Bool) : Except ActionError β → Bool
  | .ok b => unusable b
  | .error e => e.isStorage

/-- Makes a call, and takes down whether it fails. -/
def note (unusable : β → Bool) (x : Action σ β) : Action (Watched α σ) β := .ofFunction fun w =>
  let (r, store) := x.outcome w.store
  (r, ⟨store, w.failed || fails unusable r⟩)

/-- Whether bytes do not read as a value of this type. -/
def unreadable (α : Type) [Json.Coded α] (bs : Bytes) : Bool :=
  match (Json.decode bs : Except Json.Failure α) with
  | .ok _ => false
  | .error _ => true

instance [Json.Coded α] [KeyValue σ] : KeyValue (Watched α σ) where
  has key := note (fun _ => false) (KeyValue.has key)
  get key := note (unreadable α) (KeyValue.get key)
  set key value := note (fun _ => false) (KeyValue.set key value)

/-- The watched store is the store, and nothing failed so far. -/
def Sound (s : σ) (w : Watched α σ) : Prop := w.store = s ∧ w.failed = false

/-- The watched store is the store, and the same error was taken down as what it is. -/
def Tells (e e' : ActionError) (s : σ) (w : Watched α σ) : Prop :=
  e = e' ∧ w.store = s ∧ w.failed = e.isStorage

theorem outcome_note (unusable : β → Bool) (x : Action σ β) {s : σ} {w : Watched α σ}
    (h : Sound s w) :
    (note unusable x).outcome w =
      ((x.outcome s).1, ⟨(x.outcome s).2, fails unusable (x.outcome s).1⟩) := by
  obtain ⟨rfl, hfailed⟩ := h
  unfold note
  rw [Action.outcome_ofFunction, hfailed]
  rfl

theorem note_agree (x : Action σ β) :
    Action.Agree Sound Tells x (note (α := α) (fun _ => false) x) := by
  intro s w h
  rw [outcome_note _ x h]
  cases x.outcome s with
  | mk r s' =>
      cases r with
      | ok b => exact .ok ⟨rfl, rfl⟩
      | error e => exact .error ⟨rfl, rfl, rfl⟩

/-- Watching a store changes none of its answers. -/
theorem agree [Json.Coded α] [KeyValue σ] : StoresAgree α (Sound (σ := σ) (α := α)) Tells where
  has key := note_agree (KeyValue.has key)
  set key value := note_agree (KeyValue.set key value)
  found key s w h := by
    change Meets Sound Tells _
      (KeyValue.decodeFound ((note (unreadable α) (KeyValue.get key)).outcome w).1,
        ((note (unreadable α) (KeyValue.get key)).outcome w).2)
    rw [outcome_note (unreadable α) (KeyValue.get key) h]
    cases (KeyValue.get key : Action σ Bytes).outcome s with
    | mk r s' =>
        cases r with
        | ok bs =>
            simp only [KeyValue.decodeFound, fails, unreadable]
            cases (Json.decode bs : Except Json.Failure α) with
            | ok a => exact .ok ⟨rfl, rfl⟩
            | error e => exact .error ⟨rfl, rfl, rfl⟩
        | error e =>
            cases e with
            | notFound detail => exact .ok ⟨rfl, rfl⟩
            | validation detail => exact .error ⟨rfl, rfl, rfl⟩
            | storage detail => exact .error ⟨rfl, rfl, rfl⟩

end Watched
end TodoPromo
