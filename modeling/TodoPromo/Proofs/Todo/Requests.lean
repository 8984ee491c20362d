import TodoPromo.Proofs.Http.Answers
import TodoPromo.Proofs.Todo.Operations
import TodoPromo.Todo.Router

/-! # Requests to the todo list when the storage fails

Behind any plan on which the storage alone fails, every request is either refused, and the stored
list stays as it is, or carried out: `Carried` says for each method of each resource what the
response and the list then are (`respond_ends`). -/

namespace TodoPromo

/-- The table holds this list of todos; an empty list may also be absent. -/
def Contents.Keeps (c : Contents) (ts : List Todo) : Prop :=
  match c.get? TodoList.listKey with
  | some bs => Json.decode bs = .ok ts
  | none => ts = []

namespace Contents

theorem keeps_empty : Keeps ∅ [] := rfl

theorem Keeps.stored {c : Contents} {ts : List Todo} (h : c.Keeps ts) :
    ∃ ts? : Option (List Todo), c.stored? TodoList.listKey = .ok ts? ∧ ts?.getD [] = ts := by
  unfold Keeps at h
  unfold stored?
  cases hc : c.get? TodoList.listKey with
  | none =>
      rw [hc] at h
      exact ⟨none, rfl, h.symm⟩
  | some bs =>
      rw [hc] at h
      exact ⟨some ts, by simp [KeyValue.decodeFound, h], rfl⟩

theorem Keeps.commit {c : Contents} {ts : List Todo} (h : c.Keeps ts)
    (next? : Option (List Todo)) : (c.commit TodoList.listKey next?).Keeps (next?.getD ts) := by
  cases next? with
  | none => exact h
  | some next =>
      unfold Keeps
      rw [get?_commit_some]
      exact decode_todos next

end Contents

/-- The storage alone fails, and the table holds this list. -/
structure Faulty.Sound {φ : Type} [FaultPlan φ] (s : Faulty Contents φ) (ts : List Todo) : Prop where
  plan : FaultPlan.StorageOnly s.plan
  keeps : s.store.Keeps ts

namespace TodoRouter

open Http TodoList

/-! ### Reading the request -/

section
variable {σ : Type} {r : Request} {next : String → StateM σ Response}

theorem withContent_ok {content : String} (h : readBody r = .ok (⟨content⟩ : TodoContent)) :
    withContent r next = next content := by
  unfold withContent
  rw [h]

theorem withContent_error {e : BodyError}
    (h : (readBody r : Except BodyError TodoContent) = .error e) :
    withContent r next = pure (.badRequest e.message) := by
  unfold withContent
  rw [h]

theorem withId_some {segment id : String} (h : decodeSegment? segment = some id) :
    withId segment next = next id := by
  unfold withId
  rw [h]

theorem withId_none {segment : String} (h : decodeSegment? segment = none) :
    withId segment next = pure (invalidParameter "id") := by
  unfold withId
  rw [h]

end

variable {φ β : Type} [FaultPlan φ] {s : Faulty Contents φ} {ts : List Todo}

/-! ### Edits behind a plan of faults -/

/-- The answer to an edit is an error, and the list stays; or the edit is done as a whole. -/
theorem answer_edit (h : s.Sound ts) (f : List Todo → β × Option (List Todo)) (g : β → Response) :
    ∃ a s', answer (edit f) g s = (a, s') ∧
      (a.Refuses ∧ s'.Sound ts ∨ a = g (f ts).1 ∧ s'.Sound ((f ts).2.getD ts)) := by
  obtain ⟨r, c, calls, writes, hout, hsettles⟩ :=
    KeyValue.transact_faulty listKey (fun ts? : Option (List Todo) => f (ts?.getD [])) s
  have hplan : FaultPlan.StorageOnly (FaultPlan.after calls s.plan) := h.plan.after calls
  cases r with
  | error e =>
      refine ⟨_, _, answer_error hout g, .inl ⟨Response.refuses_ofActionError e, hplan, ?_⟩⟩
      cases hsettles
      exact h.keeps
  | ok b =>
      refine ⟨_, _, answer_ok hout g, .inr ?_⟩
      obtain ⟨ts?, hstored, rfl, rfl⟩ := hsettles.stored h.plan
      obtain ⟨ts?', hstored', hts⟩ := h.keeps.stored
      obtain rfl : ts? = ts?' := Except.ok.inj (hstored.symm.trans hstored')
      rw [hts]
      exact ⟨rfl, hplan, h.keeps.commit _⟩

/-! ### What a request does -/

/-- A request that is carried out: its response, and the list that it leaves. -/
inductive Carried (fresh : String) (r : Request) (ts : List Todo) :
    Resource → Method → Response → List Todo → Prop where
  | health : Carried fresh r ts .health .get healthy ts
  | listed : Carried fresh r ts .todos .get (.json 200 (Json.encode ts)) ts
  | created {content : String} (body : readBody r = .ok (⟨content⟩ : TodoContent)) :
      Carried fresh r ts .todos .post
        (.json 201 (Json.encode (⟨fresh, content, false⟩ : Todo))) (ts ++ [⟨fresh, content, false⟩])
  | cleared : Carried fresh r ts .todos .delete
      (.json 200 (Json.encode (ts.filter (!·.completed)))) (ts.filter (!·.completed))
  | updated {segment id content : String} {t : Todo} {ts' : List Todo}
      (param : decodeSegment? segment = some id)
      (body : readBody r = .ok (⟨content⟩ : TodoContent))
      (changes : modifyFirst id (fun t => { t with content }) ts = some (t, ts')) :
      Carried fresh r ts (.todo segment) .put (.json 200 (Json.encode t)) ts'
  | toggled {segment id : String} {t : Todo} {ts' : List Todo}
      (param : decodeSegment? segment = some id)
      (changes : modifyFirst id (fun t => { t with completed := !t.completed }) ts = some (t, ts')) :
      Carried fresh r ts (.todo segment) .post (.json 200 (Json.encode t)) ts'
  | removed {segment id : String} (param : decodeSegment? segment = some id)
      (found : ∃ t ∈ ts, t.id = id) :
      Carried fresh r ts (.todo segment) .delete (.empty 204) (ts.filter (·.id ≠ id))

/-- Either of the two ways in which a request ends. -/
inductive Ends (fresh : String) (r : Request) (ts : List Todo) (x : Resource) (m : Method) :
    Response → List Todo → Prop where
  | refused {a : Response} (h : a.Refuses) : Ends fresh r ts x m a ts
  | carried {a : Response} {ts' : List Todo} (h : Carried fresh r ts x m a ts') :
      Ends fresh r ts x m a ts'

variable {fresh : String} {r : Request}

theorem refuses_notFound : (foundOr404 none).Refuses := (by decide : 400 ≤ 404)

theorem ends_of_refusal (h : s.Sound ts) {a : Response} (ha : a.Refuses) (x : Resource)
    (m : Method) :
    ∃ a' s' ts', ((pure a : StateM (Faulty Contents φ) Response) s) = (a', s') ∧ s'.Sound ts' ∧
      Ends fresh r ts x m a' ts' :=
  ⟨a, s, ts, rfl, h, .refused ha⟩

/-- To answer an edit it is enough to say what the request is when the edit is done. -/
theorem ends_edit (h : s.Sound ts) {x : Resource} {m : Method}
    {f : List Todo → β × Option (List Todo)} {g : β → Response}
    (hdone : Ends fresh r ts x m (g (f ts).1) ((f ts).2.getD ts)) :
    ∃ a s' ts', answer (edit f) g s = (a, s') ∧ s'.Sound ts' ∧ Ends fresh r ts x m a ts' := by
  obtain ⟨a, s', hout, ⟨hrefuses, hs⟩ | ⟨rfl, hs⟩⟩ := answer_edit h f g
  · exact ⟨a, s', ts, hout, hs, .refused hrefuses⟩
  · exact ⟨_, s', _, hout, hs, hdone⟩

theorem ends_modified {segment id : String} {m : Method} {f : Todo → Todo}
    (hcarried : ∀ {t ts'}, modifyFirst id f ts = some (t, ts') →
      Carried fresh r ts (.todo segment) m (.json 200 (Json.encode t)) ts') :
    Ends fresh r ts (.todo segment) m (foundOr404 (modified id f ts).1)
      ((modified id f ts).2.getD ts) := by
  unfold modified
  cases hmodify : modifyFirst id f ts with
  | none => exact .refused refuses_notFound
  | some p => exact .carried (hcarried hmodify)

theorem ends_removed {segment id : String} (param : decodeSegment? segment = some id) :
    Ends fresh r ts (.todo segment) .delete
      (if (removed id ts).1 then .empty 204 else .text 404 "Todo Not Found")
      ((removed id ts).2.getD ts) := by
  unfold removed
  by_cases hlength : (ts.filter (·.id ≠ id)).length = ts.length
  · rw [if_pos hlength]
    exact .refused refuses_notFound
  · rw [if_neg hlength]
    refine .carried (.removed param (Decidable.byContradiction fun hnone => ?_))
    simp only [not_exists, not_and] at hnone
    refine hlength (congrArg List.length (List.filter_eq_self.mpr ?_))
    intro t ht
    exact decide_eq_true (hnone t ht)

/-- A method of the whole list is refused or carried out. -/
theorem handle_todos_ends (h : s.Sound ts) {m : Method} (hm : m ∈ Resource.todos.allowed) :
    ∃ a s' ts', handle fresh r .todos m s = (a, s') ∧ s'.Sound ts' ∧
      Ends fresh r ts .todos m a ts' := by
  cases m with
  | get =>
      have hhandle : (handle fresh r .todos .get : StateM (Faulty Contents φ) Response) =
          answer list fun ts => .json 200 (Json.encode ts) := rfl
      rw [hhandle, list_eq_edit]
      exact ends_edit h (.carried .listed)
  | delete =>
      have hhandle : (handle fresh r .todos .delete : StateM (Faulty Contents φ) Response) =
          answer clearCompleted fun ts => .json 200 (Json.encode ts) := rfl
      rw [hhandle, clearCompleted_eq_edit]
      exact ends_edit h (.carried .cleared)
  | put => exact absurd hm (by decide)
  | post =>
      have hhandle : (handle fresh r .todos .post : StateM (Faulty Contents φ) Response) =
          withContent r fun content =>
            answer (add fresh content) fun t => .json 201 (Json.encode t) := rfl
      cases hbody : (readBody r : Except BodyError TodoContent) with
      | error e =>
          rw [hhandle, withContent_error hbody]
          exact ends_of_refusal h (Response.refuses_badRequest _) _ _
      | ok payload =>
          rw [hhandle, withContent_ok hbody]
          cases hempty : payload.content.isEmpty with
          | true =>
              rw [add_eq_throw hempty]
              exact ends_of_refusal h (Response.refuses_ofActionError _) _ _
          | false =>
              rw [add_eq_edit hempty]
              exact ends_edit h (.carried (.created hbody))

/-- A method of a single todo is refused or carried out. -/
theorem handle_todo_ends (h : s.Sound ts) {segment : String} {m : Method}
    (hm : m ∈ (Resource.todo segment).allowed) :
    ∃ a s' ts', handle fresh r (.todo segment) m s = (a, s') ∧ s'.Sound ts' ∧
      Ends fresh r ts (.todo segment) m a ts' := by
  have hput : (handle fresh r (.todo segment) .put : StateM (Faulty Contents φ) Response) =
      withId segment fun id => withContent r fun content =>
        answer (update id content) foundOr404 := rfl
  have hpost : (handle fresh r (.todo segment) .post : StateM (Faulty Contents φ) Response) =
      withId segment fun id => answer (toggle id) foundOr404 := rfl
  have hdelete : (handle fresh r (.todo segment) .delete : StateM (Faulty Contents φ) Response) =
      withId segment fun id => answer (delete id) fun found =>
        if found then .empty 204 else .text 404 "Todo Not Found" := rfl
  cases hsegment : decodeSegment? segment with
  | none =>
      have hhandle : (handle fresh r (.todo segment) m : StateM (Faulty Contents φ) Response) =
          pure (invalidParameter "id") := by
        cases m with
        | get => exact absurd hm (by simp [Resource.allowed])
        | put => rw [hput, withId_none hsegment]
        | post => rw [hpost, withId_none hsegment]
        | delete => rw [hdelete, withId_none hsegment]
      rw [hhandle]
      exact ends_of_refusal h (refuses_invalidParameter _) _ _
  | some id =>
      cases m with
      | get => exact absurd hm (by simp [Resource.allowed])
      | put =>
          rw [hput, withId_some hsegment]
          cases hbody : (readBody r : Except BodyError TodoContent) with
          | error e =>
              rw [withContent_error hbody]
              exact ends_of_refusal h (Response.refuses_badRequest _) _ _
          | ok payload =>
              rw [withContent_ok hbody, update_eq_edit]
              exact ends_edit h (ends_modified fun hmodify => .updated hsegment hbody hmodify)
      | post =>
          rw [hpost, withId_some hsegment, toggle_eq_edit]
          exact ends_edit h (ends_modified fun hmodify => .toggled hsegment hmodify)
      | delete =>
          rw [hdelete, withId_some hsegment, delete_eq_edit]
          exact ends_edit h (ends_removed hsegment)

/-- Behind a storage that fails at will, a request to an allowed method is refused or carried
out. -/
theorem handle_ends (fresh : String) (r : Request) (h : s.Sound ts) {x : Resource} {m : Method}
    (hm : m ∈ x.allowed) :
    ∃ a s' ts', handle fresh r x m s = (a, s') ∧ s'.Sound ts' ∧ Ends fresh r ts x m a ts' := by
  cases x with
  | health =>
      obtain rfl := List.mem_singleton.mp hm
      exact ⟨healthy, s, ts, rfl, h, .carried .health⟩
  | todos => exact handle_todos_ends h hm
  | todo segment => exact handle_todo_ends h hm

/-- The methods that the path of a request allows, if it leads anywhere. -/
def allowed? (r : Request) : Option (List Method) :=
  (Resource.ofTarget? r.target).map Resource.allowed

theorem respond_eq {σ : Type} [KeyValue σ] (fresh : String) (r : Request) :
    (respond fresh r : StateM σ Response) =
      route r (Resource.ofTarget? r.target) Resource.allowed (handle fresh r) := by
  unfold respond route
  dsimp only
  cases Resource.ofTarget? r.target <;> rfl

theorem respond_handled {σ : Type} [KeyValue σ] {r : Request} {x : Resource} {m : Method}
    (hx : Resource.ofTarget? r.target = some x) (hm : Method.ofName? r.method = some m)
    (hmem : m ∈ x.allowed) (fresh : String) :
    (respond fresh r : StateM σ Response) =
      (fun a => (a.sentTo r).shared r) <$> handle fresh r x m := by
  rw [respond_eq, hx, route_handled hm hmem]

/-- A request is carried out by an allowed method, or its response acknowledges nothing. -/
theorem respond_ends (h : s.Sound ts) (fresh : String) (r : Request) :
    ∃ a s' ts', respond fresh r s = (a.shared r, s') ∧ s'.Sound ts' ∧
      ((∃ x m a', Resource.ofTarget? r.target = some x ∧ Method.ofName? r.method = some m ∧
          a = Response.sentTo r a' ∧ Carried fresh r ts x m a' ts') ∨
        ts' = ts ∧ (r.method = "OPTIONS" ∨ a.Refuses)) := by
  obtain ⟨x, m, hx, hname, hm⟩ | hroute := route_cases r (Resource.ofTarget? r.target) Resource.allowed
  · obtain ⟨a, s', ts', hhandle, hs, hends⟩ := handle_ends fresh r h hm
    rw [respond_handled hx hname hm, hx]
    refine ⟨a.sentTo r, s', ts', ?_, hs, ?_⟩
    · change (((handle fresh r x m s).1.sentTo r).shared r, (handle fresh r x m s).2) = _
      rw [hhandle]
    · cases hends with
      | refused hrefuses => exact .inr ⟨rfl, .inr (hrefuses.sentTo r)⟩
      | carried hcarried => exact .inl ⟨x, m, a, rfl, hname, rfl, hcarried⟩
  · rw [respond_eq, hroute]
    exact ⟨_, s, ts, rfl, h, .inr ⟨rfl, refuses_unhandled r _⟩⟩

end TodoRouter
end TodoPromo
