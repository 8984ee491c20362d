import TodoPromo.Proofs.Http.Answers
import TodoPromo.Proofs.Store.Transactions

/-! # What a request may do to the store

Behind any plan of faults, an answered request is `Orderly`: it writes once at most, under its own
key only, and not at all unless the response says that it was carried out. A request that comes to one
transaction at most, and answers with success whenever that has something to write (`Transacts`), is
orderly (`Transacts.orderly`), and leaves the store untouched if it never has
(`Transacts.untouched`). -/

namespace TodoPromo

open Http

/-- A response that says that the request was carried out. -/
def Http.Response.Succeeds (a : Response) : Prop := 200 ≤ a.status ∧ a.status < 300

/-- Requests that ask for no change: by their method, or because no resource of the router has such
a path or handles such a method. -/
def Http.Request.Idle (r : Request) (allowed : Option (List Method)) : Prop :=
  r.method ∈ ["GET", "HEAD", "OPTIONS"] ∨
    ∀ methods, allowed = some methods → ∀ m ∈ methods, r.method ∉ m.names

theorem Http.Response.succeeds_of_status {a : Response} (n : Nat) (h : a.status = n)
    (hn : 200 ≤ n ∧ n < 300) : a.Succeeds := by
  unfold Succeeds
  rw [h]
  exact hn

namespace Faulty

variable {φ : Type} {s s' : Faulty Contents φ} {a a' : Response} {touches : String → Prop}

/-- The store is as it was, and no write was tried. -/
structure Untouched (s s' : Faulty Contents φ) : Prop where
  store : s'.store = s.store
  writes : s'.writes = s.writes

/-- The states before and after a request that was answered by `a`, and that may write under some
keys. -/
structure Orderly (touches : String → Prop) (a : Response) (s s' : Faulty Contents φ) : Prop where
  refused : ¬ a.Succeeds → s'.store = s.store
  writes : s.writes ≤ s'.writes ∧ s'.writes ≤ s.writes + 1
  others : ∀ key, ¬ touches key → s'.store.get? key = s.store.get? key

theorem Untouched.refl (s : Faulty Contents φ) : s.Untouched s := ⟨rfl, rfl⟩

theorem Untouched.orderly (h : s.Untouched s') (touches : String → Prop) (a : Response) :
    Orderly touches a s s' := by
  refine ⟨fun _ => h.store, ?_, fun key _ => by rw [h.store]⟩
  have := h.writes
  omega

theorem Orderly.of_status (h : Orderly touches a s s') (hstatus : a'.status = a.status) :
    Orderly touches a' s s' := by
  refine ⟨fun hfails => h.refused ?_, h.writes, h.others⟩
  unfold Response.Succeeds at hfails ⊢
  rw [← hstatus]
  exact hfails

theorem Orderly.mono {touches' : String → Prop} (h : Orderly touches a s s')
    (hsub : ∀ key, touches key → touches' key) : Orderly touches' a s s' :=
  ⟨h.refused, h.writes, fun key hkey => h.others key fun ht => hkey (hsub key ht)⟩

/-! ### Transactions -/

section
variable [FaultPlan φ] {α β : Type} [Json.Coded α]

/-- The answer to a transaction that only reads. -/
theorem untouched_transact (key : String) {f : Option α → β × Option α}
    (hf : ∀ a?, (f a?).2 = none) (g : β → Response) (s : Faulty Contents φ) :
    s.Untouched (answer (KeyValue.transact key f) g s).2 := by
  have hwrites := KeyValue.writes_transact key f s
  obtain ⟨r, c, calls, writes, hout, hsettles⟩ := KeyValue.transact_faulty key f s
  rw [hout] at hwrites
  have hafter : (answer (KeyValue.transact key f) g s).2 =
      ⟨c, FaultPlan.after calls s.plan, writes⟩ := by
    cases r with
    | error e => rw [answer_error hout]
    | ok b => rw [answer_ok hout]
  rw [hafter]
  refine ⟨?_, ?_⟩
  · cases hsettles with
    | failed e => rfl
    | done h => rw [hf]; rfl
  · obtain hsame | ⟨⟨a?, ha⟩, -⟩ := hwrites
    · exact hsame
    · exact absurd (hf a?) ha

/-- The answer to a transaction that writes under some keys, and that answers with success whenever it
has something to write. -/
theorem orderly_transact (key : String) {f : Option α → β × Option α} {g : β → Response}
    (hg : ∀ a?, (f a?).2 ≠ none → touches key ∧ (g (f a?).1).Succeeds) (s : Faulty Contents φ) :
    Orderly touches (answer (KeyValue.transact key f) g s).1 s
      (answer (KeyValue.transact key f) g s).2 := by
  have hwrites := KeyValue.writes_transact key f s
  obtain ⟨r, c, calls, writes, hout, hsettles⟩ := KeyValue.transact_faulty key f s
  rw [hout] at hwrites
  have hbounds : s.writes ≤ writes ∧ writes ≤ s.writes + 1 := by
    obtain h | ⟨-, h⟩ := hwrites
    all_goals
      change writes = _ at h
      omega
  cases hsettles with
  | failed e =>
      rw [answer_error hout]
      exact ⟨fun _ => rfl, hbounds, fun _ _ => rfl⟩
  | @done a? h =>
      rw [answer_ok hout]
      cases hf : (f a?).2 with
      | none => exact ⟨fun _ => rfl, hbounds, fun _ _ => rfl⟩
      | some a =>
          obtain ⟨htouches, hsucceeds⟩ := hg a? (by simp [hf])
          refine ⟨fun hfails => absurd hsucceeds hfails, hbounds, fun key' hkey => ?_⟩
          have hne : key ≠ key' := by
            rintro rfl
            exact hkey htouches
          exact Contents.get?_commit_of_ne hne (some a)

end
end Faulty

/-! ### One transaction at most -/

/-- What a request comes to, whatever store it is made on: it is answered without the store, or by the
answer to one transaction, which writes under some keys only, and not unless it answers with success.
Nothing but a failure of the store is answered with an error of the server. -/
inductive Transacts (α : Type) [Json.Coded α] (touches : String → Prop)
    (x : ∀ (σ : Type) [KeyValue σ], StateM σ Response) : Prop where
  | without (a : Response) (status : a.status ≠ 500) (eq : ∀ (σ : Type) [KeyValue σ], x σ = pure a)
  | within {β : Type} {key : String} {f : Option α → β × Option α} {g : β → Response}
      (status : ∀ b, (g b).status ≠ 500)
      (writes : ∀ a?, (f a?).2 ≠ none → touches key ∧ (g (f a?).1).Succeeds)
      (eq : ∀ (σ : Type) [KeyValue σ], x σ = answer (KeyValue.transact key f) g)

namespace Transacts

variable {φ α : Type} [FaultPlan φ] [Json.Coded α] {touches touches' : String → Prop}
  {x : ∀ (σ : Type) [KeyValue σ], StateM σ Response}

theorem mono (h : Transacts α touches x) (hsub : ∀ key, touches key → touches' key) :
    Transacts α touches' x := by
  cases h with
  | without a status eq => exact .without a status eq
  | within status writes eq =>
      refine .within status (fun a? ha => ?_) eq
      obtain ⟨htouches, hsucceeds⟩ := writes a? ha
      exact ⟨hsub _ htouches, hsucceeds⟩

theorem orderly (h : Transacts α touches x) (s : Faulty Contents φ) :
    Faulty.Orderly touches (x (Faulty Contents φ) s).1 s (x (Faulty Contents φ) s).2 := by
  cases h with
  | without a status eq =>
      rw [eq]
      exact (Faulty.Untouched.refl s).orderly touches a
  | within status writes eq =>
      rw [eq]
      exact Faulty.orderly_transact _ writes s

theorem untouched (h : Transacts α (fun _ => False) x) (s : Faulty Contents φ) :
    s.Untouched (x (Faulty Contents φ) s).2 := by
  cases h with
  | without a status eq =>
      rw [eq]
      exact .refl s
  | within status writes eq =>
      rw [eq]
      refine Faulty.untouched_transact _ (fun a? => ?_) _ s
      exact Decidable.not_not.mp fun ha => (writes a? ha).1

end Transacts

/-! ### Methods -/

namespace Http

/-- An idle request reaches no handler but one of `GET`. -/
theorem Request.Idle.eq_get {r : Request} {methods : List Method} {method : Method}
    (h : r.Idle (some methods)) (hname : Method.ofName? r.method = some method)
    (hmem : method ∈ methods) : method = .get := by
  have hnames := Method.mem_names_of_ofName? hname
  obtain hreads | hwrong := h
  · simp only [List.mem_cons, List.not_mem_nil, or_false] at hreads
    obtain hreads | hreads | hreads := hreads
    all_goals
      rw [hreads] at hname
      cases hname
    all_goals rfl
  · exact absurd hnames (hwrong methods rfl method hmem)

end Http
end TodoPromo
