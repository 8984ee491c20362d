import TodoPromo.Proofs.Services.Refusals
import TodoPromo.Proofs.Store.Likeness

/-! # Failures of the storage are concealed

A client learns that the storage failed, and nothing more. Stores that differ only in the details of
their failures, or in bytes that no route can read, answer every request alike; and whenever a call
to the store fails for the storage's sake, or hands out bytes that cannot be read, the response is one
and the same error of the server (`storage_concealed`). Both follow from one fact: a request comes to
one transaction at most, whatever store it is made on (`AnswersOnce`), so that its answers on two
stores correspond as far as the calls of the stores do. -/

namespace TodoPromo

open Http

variable {σ τ φ φ' ρ α β : Type}

/-! ### Requests that no resource handles -/

theorem Http.status_unhandled_ne (r : Request) (allowed : Option (List Method)) :
    (unhandled r allowed).status ≠ 500 := by
  have hstatus := status_unhandled r allowed
  omega

/-! ### One transaction at most -/

/-- On every store this answers without the store, or it is the answer to one transaction; and only
a failure is answered with an error of the server. -/
def AnswersOnce (α : Type) [Json.Coded α] (x : ∀ (σ : Type) [KeyValue σ], StateM σ Response) :
    Prop :=
  (∃ a : Response, a.status ≠ 500 ∧ ∀ (σ : Type) [KeyValue σ], x σ = pure a) ∨
    ∃ (β : Type) (key : String) (f : Option α → β × Option α) (g : β → Response),
      (∀ b, (g b).status ≠ 500) ∧
        ∀ (σ : Type) [KeyValue σ], x σ = answer (KeyValue.transact key f) g

theorem AnswersOnce.meets [Json.Coded α] [KeyValue σ] [KeyValue τ]
    {x : ∀ (σ : Type) [KeyValue σ], StateM σ Response} (hx : AnswersOnce α x)
    {R : σ → τ → Prop} {E : ActionError → ActionError → σ → τ → Prop} (h : StoresAgree α R E)
    (r : Request) {s : σ} {t : τ} (hst : R s t) :
    AnswersMeet R E r (((x σ s).1.sentTo r).shared r, (x σ s).2)
      (((x τ t).1.sentTo r).shared r, (x τ t).2) := by
  obtain ⟨a, hstatus, hx⟩ | ⟨β, key, f, g, hg, hx⟩ := hx
  · rw [hx σ, hx τ]
    refine .same ?_ hst
    change (a.sentTo r).status ≠ 500
    rw [Response.status_sentTo]
    exact hstatus
  · rw [hx σ, hx τ]
    exact (h.transact key f).answer r hg hst

theorem Transacts.answersOnce [Json.Coded α] {touches : String → Prop}
    {x : ∀ (σ : Type) [KeyValue σ], StateM σ Response} (h : Transacts α touches x) :
    AnswersOnce α x := by
  cases h with
  | without a status eq => exact .inl ⟨a, status, eq⟩
  | within status writes eq => exact .inr ⟨_, _, _, _, status, eq⟩

/-! ### The todo list -/

namespace TodoRouter

theorem respond_meets [KeyValue σ] [KeyValue τ] {R : σ → τ → Prop}
    {E : ActionError → ActionError → σ → τ → Prop} (h : StoresAgree (List Todo) R E)
    (fresh : String) (r : Request) {s : σ} {t : τ} (hst : R s t) :
    AnswersMeet R E r (respond fresh r s) (respond fresh r t) := by
  obtain ⟨x, m, hx, hm, hmem⟩ | hroute := route_cases r (Resource.ofTarget? r.target) Resource.allowed
  · rw [respond_handled hx hm hmem, respond_handled hx hm hmem]
    exact (handle_transacts fresh r hmem).answersOnce.meets h r hst
  · rw [respond_eq, respond_eq, hroute, hroute]
    exact .same (status_unhandled_ne r _) hst

end TodoRouter

/-- Two answers that correspond, or none on either store. -/
inductive Corresponds (R : σ → τ → Prop) (E : ActionError → ActionError → σ → τ → Prop)
    (r : Request) : Option Response × (σ × ρ) → Option Response × (τ × ρ) → Prop where
  | none {s : σ} {t : τ} {source : ρ} (h : R s t) :
      Corresponds R E r (.none, (s, source)) (.none, (t, source))
  | some {a b : Response} {s : σ} {t : τ} {source : ρ} (h : AnswersMeet R E r (a, s) (b, t)) :
      Corresponds R E r (.some a, (s, source)) (.some b, (t, source))

/-! ### The promo codes -/

namespace PromoRouter

variable [NumberSource ρ]

section
variable [KeyValue σ] [KeyValue τ] {R : σ → τ → Prop}
  {E : ActionError → ActionError → σ → τ → Prop} {s : σ} {t : τ}

theorem sampleResponse_generated {now : Time.Instant} {ids : List String} {source source' : ρ}
    {codes : List PromoCode} (h : Sample.generate now ids source = (.some codes, source')) (s : σ) :
    sampleResponse now ids (s, source) =
      (.some (answer (Promo.writeAll codes) (fun _ => .json 201 (Json.encode codes)) s).1,
        ((answer (Promo.writeAll codes) (fun _ => .json 201 (Json.encode codes)) s).2, source')) := by
  cases hout : (Promo.writeAll codes : Action σ Unit).outcome s with
  | mk written s' =>
      unfold sampleResponse
      dsimp only
      rw [Promo.seed_generated h, hout]
      cases written with
      | error e =>
          rw [answer_error hout]
          rfl
      | ok u =>
          rw [answer_ok hout]
          rfl

theorem sampleResponse_beyond {now : Time.Instant} {ids : List String} {source source' : ρ}
    (h : Sample.generate now ids source = (.none, source')) (s : σ) :
    sampleResponse now ids (s, source) = (.none, (s, source')) := by
  unfold sampleResponse
  dsimp only
  rw [Promo.seed_beyond h]

/-- The answers to a handled request on two stores correspond as far as the stores do. -/
theorem handle_meets (h : StoresAgree PromoCode R E) (now : Time.Instant) (ids : List String)
    (r : Request) (x : Resource) (hst : R s t) (source : ρ) :
    Corresponds R E r
      ((Option.map (fun a => (a.sentTo r).shared r) <$> handle now ids x) (s, source))
      ((Option.map (fun a => (a.sentTo r).shared r) <$> handle now ids x) (t, source)) := by
  by_cases hx : x = .sampleCodes
  · subst hx
    change Corresponds R E r
      (Option.map _ (sampleResponse now ids (s, source)).1, (sampleResponse now ids (s, source)).2)
      (Option.map _ (sampleResponse now ids (t, source)).1, (sampleResponse now ids (t, source)).2)
    cases hgenerate : Sample.generate now ids source with
    | mk codes? source' =>
        cases codes? with
        | none =>
            rw [sampleResponse_beyond hgenerate, sampleResponse_beyond hgenerate]
            exact .none hst
        | some codes =>
            rw [sampleResponse_generated hgenerate, sampleResponse_generated hgenerate]
            exact .some ((h.writeAll codes).answer r (fun _ => (by decide : 201 ≠ 500)) hst)
  · obtain ⟨y, htransacts, hhandle⟩ := handle_transacts (ρ := ρ) now ids hx
    rw [hhandle, hhandle]
    exact .some (htransacts.answersOnce.meets h r hst)

theorem respond_meets (h : StoresAgree PromoCode R E) (now : Time.Instant) (ids : List String)
    (r : Request) (hst : R s t) (source : ρ) :
    Corresponds R E r (respond now ids r (s, source)) (respond now ids r (t, source)) := by
  obtain ⟨x, m, hx, hm, hmem⟩ | hroute := route_cases r (Resource.ofTarget? r.target) Resource.allowed
  · rw [respond_handled hx hm hmem, respond_handled hx hm hmem]
    exact handle_meets h now ids r x hst source
  · rw [respond_eq, respond_eq, hroute, hroute]
    exact .some (.same (status_unhandled_ne r _) hst)

end
end PromoRouter

/-! ### What a client learns of a failing storage -/

/-- The answer to a request when the storage failed. -/
def Http.concealed (r : Request) : Response where
  status := 500
  headers := ("content-type", "application/json") :: sharingHeaders r
  body :=
    if r.method = "HEAD" then [] else Text.encode "\x7b\"error\":\"Internal Server Error\"\x7d"

theorem Http.concealed_eq (r : Request) (detail : String) :
    ((Response.ofActionError (.storage detail)).sentTo r).shared r = concealed r := by
  have hbody : (Response.error 500 "Internal Server Error" none).body =
      Text.encode "\x7b\"error\":\"Internal Server Error\"\x7d" := by
    decide +kernel
  unfold Response.sentTo Response.shared concealed
  by_cases hhead : r.method = "HEAD"
  · simp only [if_pos hhead]
    rfl
  · simp only [if_neg hhead]
    change (⟨500, _, (Response.error 500 "Internal Server Error" none).body⟩ : Response) = _
    rw [hbody]
    rfl

theorem Http.status_ofActionError {e : ActionError} :
    (Response.ofActionError e).status = 500 ↔ e.isStorage = true := by
  cases e with
  | validation detail => exact ⟨fun h => absurd h (by decide : 400 ≠ 500), fun h => nomatch h⟩
  | notFound detail => exact ⟨fun h => absurd h (by decide : 404 ≠ 500), fun h => nomatch h⟩
  | storage detail => exact ⟨fun _ => rfl, fun _ => rfl⟩

/-- The answering of a request shows nothing of failures of the storage. The store holds values of
the type `α`, `ρ` are the states of the random source. -/
structure Conceals (α ρ : Type) [Json.Coded α] (r : Request)
    (step : ∀ (σ : Type) [KeyValue σ], StateM (σ × ρ) (Option Response)) : Prop where
  /-- On stores that are alike the responses are the same, and the stores stay alike. -/
  alike : ∀ {σ τ : Type} [KeyValue σ] [KeyValue τ] {R : σ → τ → Prop}, StoresAlike α R →
    ∀ s t source, R s t →
      (step σ (s, source)).1 = (step τ (t, source)).1 ∧
        (step σ (s, source)).2.2 = (step τ (t, source)).2.2 ∧
        R (step σ (s, source)).2.1 (step τ (t, source)).2.1
  /-- Watching a store changes neither what is answered nor what becomes of the store. -/
  watched : ∀ {σ : Type} [KeyValue σ] (s : σ) (source : ρ),
    (step (Watched α σ) (⟨s, false⟩, source)).1 = (step σ (s, source)).1 ∧
      (step (Watched α σ) (⟨s, false⟩, source)).2.1.store = (step σ (s, source)).2.1
  /-- The storage failed exactly if the status says so, and then the response says nothing else. -/
  failed : ∀ {σ : Type} [KeyValue σ] (s : σ) (source : ρ),
    ((step (Watched α σ) (⟨s, false⟩, source)).2.1.failed = true ↔
      (step σ (s, source)).1.map (·.status) = some 500) ∧
    ((step (Watched α σ) (⟨s, false⟩, source)).2.1.failed = true →
      (step σ (s, source)).1 = some (concealed r))

/-- Answers that correspond on stores that do show nothing of failures of the storage. -/
theorem Conceals.of_corresponds [Json.Coded α] {r : Request}
    {step : ∀ (σ : Type) [KeyValue σ], StateM (σ × ρ) (Option Response)}
    (h : ∀ {σ τ : Type} [KeyValue σ] [KeyValue τ] {R : σ → τ → Prop}
      {E : ActionError → ActionError → σ → τ → Prop}, StoresAgree α R E →
        ∀ s t source, R s t → Corresponds R E r (step σ (s, source)) (step τ (t, source))) :
    Conceals α ρ r step where
  alike := by
    intro σ τ _ _ R halike s t source hst
    have hmeets := h halike.agree s t source hst
    generalize step σ (s, source) = out, step τ (t, source) = out' at hmeets ⊢
    cases hmeets with
    | none hst' => exact ⟨rfl, rfl, hst'⟩
    | some hanswer =>
        cases hanswer with
        | same _ hst' => exact ⟨rfl, rfl, hst'⟩
        | failed he => exact ⟨by rw [he.1], rfl, he.2⟩
  watched := by
    intro σ _ s source
    have hmeets := h Watched.agree s ⟨s, false⟩ source ⟨rfl, rfl⟩
    generalize step σ (s, source) = out, step (Watched α σ) (⟨s, false⟩, source) = out'
      at hmeets ⊢
    cases hmeets with
    | none hst => exact ⟨rfl, hst.1⟩
    | some hanswer =>
        cases hanswer with
        | same _ hst => exact ⟨rfl, hst.1⟩
        | failed he => exact ⟨by rw [he.1], he.2.1⟩
  failed := by
    intro σ _ s source
    have hmeets := h Watched.agree s ⟨s, false⟩ source ⟨rfl, rfl⟩
    generalize step σ (s, source) = out, step (Watched α σ) (⟨s, false⟩, source) = out'
      at hmeets ⊢
    cases hmeets with
    | none hst =>
        rw [hst.2]
        exact ⟨⟨fun h => absurd h (by decide), fun h => absurd h (by simp)⟩,
          fun h => absurd h (by decide)⟩
    | some hanswer =>
        cases hanswer with
        | same hstatus hst =>
            rw [hst.2]
            exact ⟨⟨fun h => absurd h (by decide), fun h => absurd (Option.some.inj h) hstatus⟩,
              fun h => absurd h (by decide)⟩
        | @failed e e' _ _ he =>
            obtain ⟨rfl, -, hfailed⟩ := he
            rw [hfailed]
            refine ⟨?_, fun hstorage => ?_⟩
            · have hstatus : (((Response.ofActionError e).sentTo r).shared r).status =
                  (Response.ofActionError e).status := Response.status_sentTo r _
              simp only [Option.map_some, hstatus, Option.some.injEq]
              exact status_ofActionError.symm
            · obtain ⟨detail, rfl⟩ := ActionError.isStorage_iff.mp hstorage
              exact congrArg some (concealed_eq r detail)

/-- Neither router shows a client more of the storage than that it failed: not the details of its
failures, and nothing of entries that cannot be read. -/
theorem storage_concealed [NumberSource ρ] (fresh : String) (now : Time.Instant)
    (ids : List String) (r : Request) :
    Conceals (List Todo) ρ r
        (fun σ _ => PromoRouter.onStore (some <$> (TodoRouter.respond fresh r : StateM σ Response))) ∧
      Conceals PromoCode ρ r (fun σ _ => PromoRouter.respond (σ := σ) now ids r) := by
  refine ⟨Conceals.of_corresponds fun h s t source hst => ?_,
    Conceals.of_corresponds fun h s t source hst => ?_⟩
  · exact .some (TodoRouter.respond_meets h fresh r hst)
  · exact PromoRouter.respond_meets h now ids r hst source

theorem Json.not_readable (α : Type) [Coded α] (bs : Bytes)
    (h : (decode bs : Except Failure α).toOption.isNone = true) : ¬ Readable α bs := by
  rintro ⟨a, ha⟩
  rw [ha] at h
  exact nomatch h

/-- Two stores whose list is unreadable in different ways, and which refuse every write in different
words: a look at the list and a request for a sample code fail alike on both. -/
theorem storage_concealed_details :
    let store (bytes : Bytes) (detail : String) : Faulty Contents (List FaultRule) :=
      ⟨Table.empty.insert "all_todos" bytes, [⟨.set, 0, none, .storage detail⟩], 0⟩
    let left := store (Text.encode "[1]") "disk full"
    let right := store (Text.encode "secret") "data/default.json: denied"
    let now : Time.Instant := ⟨19800, 0, 0, by decide, by decide, by decide, by decide, by decide⟩
    let source : Scripted := ⟨[], [], []⟩
    let look : Request := ⟨"GET", "/api/todos", [], []⟩
    let sample : Request := ⟨"POST", "/seed-promocodes", [], []⟩
    left.Alike (List Todo) right ∧ left.Alike PromoCode right ∧
      (TodoRouter.respond "1" look left).1 = concealed look ∧
      (TodoRouter.respond "1" look right).1 = concealed look ∧
      (PromoRouter.respond now ["a"] sample (left, source)).1 = some (concealed sample) ∧
      (PromoRouter.respond now ["a"] sample (right, source)).1 = some (concealed sample) := by
  intro store left right now source look sample
  have hplan : FaultPlan.Alike left.plan right.plan :=
    FaultRule.plansAlike (.cons ⟨rfl, rfl, rfl, .storage _ _⟩ .nil)
  have htodos : left.Alike (List Todo) right :=
    have hleft := Json.not_readable (List Todo) (Text.encode "[1]") (by decide +kernel)
    have hright := Json.not_readable (List Todo) (Text.encode "secret") (by decide +kernel)
    ⟨Contents.Alike.insert (fun _ => .none) _ (.inr ⟨hleft, hright⟩), hplan⟩
  have hcodes : left.Alike PromoCode right :=
    have hleft := Json.not_readable PromoCode (Text.encode "[1]") (by decide +kernel)
    have hright := Json.not_readable PromoCode (Text.encode "secret") (by decide +kernel)
    ⟨Contents.Alike.insert (fun _ => .none) _ (.inr ⟨hleft, hright⟩), hplan⟩
  have hlook := (storage_concealed (ρ := Scripted) "1" now [] look).1
  have hsample := (storage_concealed (ρ := Scripted) "1" now ["a"] sample).2
  have hlist := (hlook.failed left source).2 (by decide +kernel)
  have hseed := (hsample.failed left source).2 (by decide +kernel)
  have hlist' := (hlook.alike Faulty.storesAlike left right source htodos).1
  have hseed' := (hsample.alike Faulty.storesAlike left right source hcodes).1
  exact ⟨htodos, hcodes, Option.some.inj hlist, Option.some.inj (hlist'.symm.trans hlist), hseed,
    hseed'.symm.trans hseed⟩

end TodoPromo
