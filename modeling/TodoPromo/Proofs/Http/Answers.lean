import TodoPromo.Http.Message
import TodoPromo.Http.Resource

/-! # Answers

What the answer to an action is (`answer_ok`, `answer_error`), and the two ways of a request
through a router: a resource handles its method, or it is answered without a look at the store,
whatever the handlers are (`route_cases`). -/

namespace TodoPromo.Http

/-- A response that says that the request was not carried out. -/
def Response.Refuses (a : Response) : Prop := 400 ≤ a.status

theorem Response.refuses_ofActionError (e : ActionError) : (Response.ofActionError e).Refuses := by
  cases e with
  | validation detail => exact Nat.le_refl 400
  | notFound detail => exact (by decide : 400 ≤ 404)
  | storage detail => exact (by decide : 400 ≤ 500)

theorem Response.refuses_badRequest (detail : String) : (Response.badRequest detail).Refuses :=
  Nat.le_refl 400

theorem refuses_invalidParameter (name : String) : (invalidParameter name).Refuses :=
  Nat.le_refl 400

section
variable {σ α : Type} {x : Action σ α} {s s' : σ}

theorem answer_ok {a : α} (h : x.outcome s = (.ok a, s')) (f : α → Response) :
    answer x f s = (f a, s') := by
  have hrun : x.run s = (.ok a, s') := h
  unfold answer
  simp only [bind, StateT.bind, hrun]
  rfl

theorem answer_error {e : ActionError} (h : x.outcome s = (.error e, s')) (f : α → Response) :
    answer x f s = (.ofActionError e, s') := by
  have hrun : x.run s = (.error e, s') := h
  unfold answer
  simp only [bind, StateT.bind, hrun]
  rfl

end

/-! ### Methods -/

/-- The names that stand for a method. -/
def Method.names : Method → List String
  | get => ["GET", "HEAD"]
  | post => ["POST"]
  | put => ["PUT"]
  | delete => ["DELETE"]

theorem Method.mem_names_of_ofName? {name : String} {m : Method} (h : ofName? name = some m) :
    name ∈ m.names := by
  unfold ofName? at h
  split at h
  all_goals cases h
  all_goals simp [names]

/-- The response as it is sent: without its body if the request asks for the head alone. -/
def Response.sentTo (r : Request) (a : Response) : Response :=
  if r.method = "HEAD" then { a with body := [] } else a

theorem Response.sentTo_of_ne {r : Request} (h : r.method ≠ "HEAD") (a : Response) :
    a.sentTo r = a :=
  if_neg h

theorem Response.status_sentTo (r : Request) (a : Response) : (a.sentTo r).status = a.status := by
  unfold sentTo
  split
  · rfl
  · rfl

theorem Response.Refuses.sentTo {a : Response} (h : a.Refuses) (r : Request) :
    (a.sentTo r).Refuses := by
  unfold Refuses
  rw [status_sentTo]
  exact h

/-- A method that a resource allows reaches its handler. -/
theorem dispatch_handled {m : Type → Type} [Monad m] [LawfulMonad m] {r : Request}
    {methods : List Method} {method : Method} (hname : Method.ofName? r.method = some method)
    (hmem : method ∈ methods) (handle : Method → m Response) :
    dispatch r (some methods) handle = Response.sentTo r <$> handle method := by
  have hoptions : ¬ r.method = "OPTIONS" := by
    intro ho
    rw [ho] at hname
    cases hname
  have hcontains : methods.contains method = true := List.contains_iff_mem.mpr hmem
  unfold dispatch
  simp only [if_neg hoptions, hname, hcontains, if_true]
  exact bind_pure_comp (Response.sentTo r) (handle method)

/-- The answer to a request that reaches no handler: there is no such path or no such method, or the
question is which methods there are. -/
def unhandled (r : Request) : Option (List Method) → Response
  | none => .empty (if r.method = "OPTIONS" then 200 else 404)
  | some methods => ⟨if r.method = "OPTIONS" then 200 else 405, [allowHeader methods], []⟩

theorem status_unhandled (r : Request) (allowed : Option (List Method)) :
    r.method = "OPTIONS" ∧ (unhandled r allowed).status = 200 ∨
      (unhandled r allowed).status = 404 ∨ (unhandled r allowed).status = 405 := by
  cases allowed with
  | none =>
      change _ ∧ (if r.method = "OPTIONS" then 200 else 404) = 200 ∨ _
      by_cases ho : r.method = "OPTIONS"
      · exact .inl ⟨ho, if_pos ho⟩
      · exact .inr (.inl (if_neg ho))
  | some methods =>
      change _ ∧ (if r.method = "OPTIONS" then 200 else 405) = 200 ∨ _
      by_cases ho : r.method = "OPTIONS"
      · exact .inl ⟨ho, if_pos ho⟩
      · exact .inr (.inr (if_neg ho))

theorem refuses_unhandled (r : Request) (allowed : Option (List Method)) :
    r.method = "OPTIONS" ∨ (unhandled r allowed).Refuses := by
  unfold Response.Refuses
  obtain ⟨ho, -⟩ | hstatus := status_unhandled r allowed
  · exact .inl ho
  · exact .inr (by omega)

theorem dispatch_unhandled {m : Type → Type} [Monad m] {r : Request}
    {allowed : Option (List Method)} (handle : Method → m Response)
    (h : ∀ methods method, allowed = some methods → Method.ofName? r.method = some method →
      method ∉ methods) :
    dispatch r allowed handle = pure (unhandled r allowed) := by
  unfold dispatch
  cases allowed with
  | none => rfl
  | some methods =>
      by_cases ho : r.method = "OPTIONS"
      · simp only [unhandled, if_pos ho]
      · cases hm : Method.ofName? r.method with
        | none => simp only [unhandled, if_neg ho]
        | some method =>
            have hcontains : methods.contains method = false := by
              rw [Bool.eq_false_iff, ne_eq, List.contains_iff_mem]
              exact h methods method rfl hm
            simp only [unhandled, if_neg ho, hcontains, Bool.false_eq_true, if_false]

/-! ### Resources -/

/-- What a router does with a request, given the resource that its path leads to. -/
def route {ξ : Type} {m : Type → Type} [Monad m] (r : Request) (x? : Option ξ)
    (allowed : ξ → List Method) (handle : ξ → Method → m Response) : m Response := do
  let response ← dispatch r (x?.map allowed) fun method =>
    match x? with
    | some x => handle x method
    | none => return .empty 404
  return response.shared r

section
variable {ξ : Type} {m : Type → Type} [Monad m] [LawfulMonad m] {r : Request} {allowed : ξ → List Method}

theorem route_handled {x : ξ} {method : Method} (hname : Method.ofName? r.method = some method)
    (hmem : method ∈ allowed x) (handle : ξ → Method → m Response) :
    route r (some x) allowed handle = (fun a => (a.sentTo r).shared r) <$> handle x method := by
  unfold route
  simp only [Option.map_some]
  rw [dispatch_handled hname hmem, bind_pure_comp, Functor.map_map]

end

/-- A request reaches the handler of a method that its resource allows, or the answer is the same
whatever the handlers are. -/
theorem route_cases {ξ : Type} (r : Request) (x? : Option ξ) (allowed : ξ → List Method) :
    (∃ x method, x? = some x ∧ Method.ofName? r.method = some method ∧ method ∈ allowed x) ∨
    ∀ (m : Type → Type) [Monad m] [LawfulMonad m] (handle : ξ → Method → m Response),
      route r x? allowed handle = pure ((unhandled r (x?.map allowed)).shared r) := by
  by_cases hreached : ∃ x method, x? = some x ∧ Method.ofName? r.method = some method ∧
      method ∈ allowed x
  · exact .inl hreached
  · refine .inr fun m _ _ handle => ?_
    unfold route
    rw [dispatch_unhandled _ fun methods method hallowed hname hmem => ?_, pure_bind]
    obtain ⟨x, hx, rfl⟩ := Option.map_eq_some_iff.mp hallowed
    exact hreached ⟨x, method, hx, hname, hmem⟩

end TodoPromo.Http
