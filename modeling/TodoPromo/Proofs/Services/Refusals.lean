import TodoPromo.Promo.Router
import TodoPromo.Proofs.Http.Orderly
import TodoPromo.Proofs.Promo.Operations
import TodoPromo.Proofs.Todo.Requests
import TodoPromo.Random.Scripted

/-! # Refused requests

However the store fails, a request to either router that is not answered with success leaves every
entry of the store as it was, and one that is writes once at most and under one key: the todo list's
own, or the key of the code that is redeemed. Idle requests and validations never write; and a
request that is refused for what it says itself is answered without a look at the store
(`refused_without_trace`). What a handler can do is said once for each router, as the transaction that
it comes to (`TodoRouter.handle_transacts`, `PromoRouter.handle_transacts`). -/

namespace TodoPromo

open Http Faulty

variable {φ ρ : Type}

/-! ### The todo list -/

namespace TodoRouter

open TodoList

/-- What can be wrong with a request in itself: the id, the body, or the content of a new todo. -/
inductive Unacceptable (r : Request) : Prop where
  | parameter {segment : String} {m : Method}
      (path : Resource.ofTarget? r.target = some (.todo segment))
      (method : Method.ofName? r.method = some m) (allowed : m ∈ (Resource.todo segment).allowed)
      (param : decodeSegment? segment = none)
  | newBody {e : BodyError} (path : Resource.ofTarget? r.target = some .todos)
      (method : r.method = "POST")
      (body : (readBody r : Except BodyError TodoContent) = .error e)
  | changedBody {segment : String} {e : BodyError}
      (path : Resource.ofTarget? r.target = some (.todo segment)) (method : r.method = "PUT")
      (body : (readBody r : Except BodyError TodoContent) = .error e)
  | noContent (path : Resource.ofTarget? r.target = some .todos) (method : r.method = "POST")
      (body : readBody r = .ok (⟨""⟩ : TodoContent))

theorem handle_create {σ : Type} [KeyValue σ] (fresh : String) (r : Request) :
    (handle fresh r .todos .post : StateM σ Response) = withContent r fun content =>
      answer (add fresh content) fun t => .json 201 (Json.encode t) := rfl

/-- An unacceptable request reaches a handler that refuses it without the store. -/
theorem Unacceptable.handled {r : Request} (h : Unacceptable r) :
    ∃ x m a, Resource.ofTarget? r.target = some x ∧ Method.ofName? r.method = some m ∧
      m ∈ x.allowed ∧ Response.Refuses a ∧
      ∀ (σ : Type) [KeyValue σ] (fresh : String),
        (handle fresh r x m : StateM σ Response) = pure a := by
  cases h with
  | @parameter segment m path method allowed param =>
      refine ⟨_, _, _, path, method, allowed, refuses_invalidParameter "id", fun σ _ fresh => ?_⟩
      have hrefused : ∀ next : String → StateM σ Response,
          withId segment next = pure (invalidParameter "id") := fun next => withId_none param
      cases m with
      | get => exact absurd allowed (by simp [Resource.allowed])
      | _ => exact hrefused _
  | @newBody e path method body =>
      refine ⟨_, .post, _, path, by rw [method]; rfl, by decide,
        Response.refuses_badRequest e.message, fun σ _ fresh => ?_⟩
      rw [handle_create, withContent_error body]
  | @changedBody segment e path method body =>
      have hput : Method.put ∈ (Resource.todo segment).allowed := by simp [Resource.allowed]
      have hname : Method.ofName? r.method = some .put := by rw [method]; rfl
      cases hid : decodeSegment? segment with
      | none =>
          exact ⟨_, _, _, path, hname, hput, refuses_invalidParameter "id",
            fun σ _ fresh => withId_none hid⟩
      | some id =>
          exact ⟨_, _, _, path, hname, hput, Response.refuses_badRequest _,
            fun σ _ fresh => (withId_some hid).trans (withContent_error body)⟩
  | noContent path method body =>
      refine ⟨_, .post, _, path, by rw [method]; rfl, by decide,
        Response.refuses_ofActionError (.validation "content for new todo can't be empty"),
        fun σ _ fresh => ?_⟩
      rw [handle_create, withContent_ok body, add_eq_throw rfl]
      rfl

/-- An unacceptable request is refused alike by every store. -/
theorem respond_unacceptable (fresh : String) {r : Request} (h : Unacceptable r) :
    ∃ a : Response, a.Refuses ∧
      ∀ (σ : Type) [KeyValue σ], (respond fresh r : StateM σ Response) = pure a := by
  obtain ⟨x, m, a, hx, hm, hmem, ha, hhandle⟩ := h.handled
  refine ⟨(a.sentTo r).shared r, ha.sentTo r, fun σ _ => ?_⟩
  rw [respond_handled hx hm hmem, hhandle, map_pure]

/-! ### The transaction of a request to the list -/

section
variable {β : Type} {touches : String → Prop}

theorem transacts_withId {segment : String}
    (next : ∀ (σ : Type) [KeyValue σ], String → StateM σ Response)
    (h : ∀ id, Transacts (List Todo) touches fun σ _ => next σ id) :
    Transacts (List Todo) touches fun σ _ => withId segment (next σ) := by
  cases hid : decodeSegment? segment with
  | none =>
      exact .without (invalidParameter "id") (by decide : 400 ≠ 500) fun σ _ => withId_none hid
  | some id =>
      simp only [withId_some hid]
      exact h id

theorem transacts_withContent {r : Request}
    (next : ∀ (σ : Type) [KeyValue σ], String → StateM σ Response)
    (h : ∀ content, Transacts (List Todo) touches fun σ _ => next σ content) :
    Transacts (List Todo) touches fun σ _ => withContent r (next σ) := by
  cases hbody : (readBody r : Except BodyError TodoContent) with
  | error e =>
      exact .without (.badRequest e.message) (by decide : 400 ≠ 500) fun σ _ =>
        withContent_error hbody
  | ok payload =>
      simp only [withContent_ok hbody]
      exact h payload.content

theorem transacts_edit {y : ∀ (σ : Type) [KeyValue σ], Action σ β}
    {f : List Todo → β × Option (List Todo)} (hy : ∀ (σ : Type) [KeyValue σ], y σ = edit f)
    {g : β → Response} (hg : ∀ b, (g b).status ≠ 500)
    (hwrites : ∀ ts, (f ts).2 ≠ none → touches listKey ∧ (g (f ts).1).Succeeds) :
    Transacts (List Todo) touches fun σ _ => answer (y σ) g :=
  .within hg (fun ts? => hwrites (ts?.getD [])) fun σ _ => congrArg (answer · g) (hy σ)

theorem status_foundOr404 (t? : Option Todo) : (foundOr404 t?).status ≠ 500 := by
  cases t? with
  | none => exact (by decide : 404 ≠ 500)
  | some t => exact (by decide : 200 ≠ 500)

theorem transacts_modified {y : ∀ (σ : Type) [KeyValue σ], Action σ (Option Todo)} {id : String}
    {f : Todo → Todo} (hy : ∀ (σ : Type) [KeyValue σ], y σ = edit (modified id f)) :
    Transacts (List Todo) (· = listKey) fun σ _ => answer (y σ) foundOr404 := by
  refine transacts_edit hy status_foundOr404 fun ts hwrites => ⟨rfl, ?_⟩
  unfold modified at hwrites ⊢
  cases hmodify : modifyFirst id f ts with
  | none => simp [hmodify] at hwrites
  | some p => exact Response.succeeds_of_status 200 rfl (by decide)

theorem transacts_delete (id : String) :
    Transacts (List Todo) (· = listKey) fun σ _ => answer (delete id : Action σ Bool) fun found =>
      if found then .empty 204 else .text 404 "Todo Not Found" := by
  refine transacts_edit (fun σ _ => delete_eq_edit id) (fun found => ?_) fun ts hwrites => ⟨rfl, ?_⟩
  · cases found with
    | false => exact (by decide : 404 ≠ 500)
    | true => exact (by decide : 204 ≠ 500)
  · unfold removed at hwrites ⊢
    split at hwrites
    · exact absurd rfl hwrites
    · rename_i hlength
      rw [if_neg hlength]
      exact Response.succeeds_of_status 204 rfl (by decide)

theorem transacts_add (fresh content : String) :
    Transacts (List Todo) (· = listKey) fun σ _ => answer (add fresh content : Action σ Todo) fun t =>
      .json 201 (Json.encode t) := by
  cases hempty : content.isEmpty with
  | true =>
      refine .without (.ofActionError (.validation "content for new todo can't be empty"))
        (by decide : 400 ≠ 500) fun σ _ => ?_
      rw [add_eq_throw hempty]
      rfl
  | false =>
      exact transacts_edit (fun σ _ => add_eq_edit hempty fresh) (fun t => (by decide : 201 ≠ 500))
        fun ts _ => ⟨rfl, Response.succeeds_of_status 201 rfl (by decide)⟩

/-- Whatever an allowed method does comes to one transaction on the list at most, and to look at the
list or at the service writes nothing. -/
theorem handle_transacts (fresh : String) (r : Request) {x : Resource} {m : Method}
    (hm : m ∈ x.allowed) :
    Transacts (List Todo) (fun key => m ≠ .get ∧ key = listKey) fun _ _ => handle fresh r x m := by
  cases x with
  | health => exact .without healthy (by decide : 200 ≠ 500) fun σ _ => rfl
  | todos =>
      cases m with
      | put => exact absurd hm (by decide)
      | get =>
          exact transacts_edit (fun σ _ => list_eq_edit) (fun ts => (by decide : 200 ≠ 500))
            fun ts hwrites => absurd rfl hwrites
      | delete =>
          exact transacts_edit (fun σ _ => clearCompleted_eq_edit) (fun ts => (by decide : 200 ≠ 500))
            fun ts _ => ⟨⟨by decide, rfl⟩, Response.succeeds_of_status 200 rfl (by decide)⟩
      | post =>
          refine transacts_withContent (fun σ _ content =>
            answer (add fresh content) fun t => .json 201 (Json.encode t)) fun content => ?_
          exact (transacts_add fresh content).mono fun key hkey => ⟨by decide, hkey⟩
  | todo segment =>
      cases m with
      | get => exact absurd hm (by simp [Resource.allowed])
      | put =>
          refine transacts_withId (fun σ _ id => withContent r fun content =>
            answer (update id content) foundOr404) fun id => ?_
          refine transacts_withContent (fun σ _ content => answer (update id content) foundOr404)
            fun content => ?_
          exact (transacts_modified fun σ _ => update_eq_edit id content).mono
            fun key hkey => ⟨by decide, hkey⟩
      | post =>
          refine transacts_withId (fun σ _ id => answer (toggle id) foundOr404) fun id => ?_
          exact (transacts_modified fun σ _ => toggle_eq_edit id).mono fun key hkey => ⟨by decide, hkey⟩
      | delete =>
          refine transacts_withId (fun σ _ id => answer (delete id) fun found =>
            if found then .empty 204 else .text 404 "Todo Not Found") fun id => ?_
          exact (transacts_delete id).mono fun key hkey => ⟨by decide, hkey⟩

end

variable [FaultPlan φ]

theorem respond_orderly (fresh : String) (r : Request) (s : Faulty Contents φ) :
    Orderly (· = listKey) (respond fresh r s).1 s (respond fresh r s).2 ∧
      (r.Idle (allowed? r) → s.Untouched (respond fresh r s).2) := by
  obtain ⟨x, m, hx, hm, hmem⟩ | hroute := route_cases r (Resource.ofTarget? r.target) Resource.allowed
  · have htransacts := handle_transacts fresh r hmem
    rw [respond_handled hx hm hmem]
    refine ⟨?_, fun hidle => ?_⟩
    · exact ((htransacts.orderly s).mono fun key hkey => hkey.2).of_status (Response.status_sentTo r _)
    · unfold allowed? at hidle
      rw [hx] at hidle
      have hget : m = .get := hidle.eq_get hm hmem
      exact (htransacts.mono fun key hkey => hkey.1 hget).untouched s
  · rw [respond_eq, hroute]
    exact ⟨(Untouched.refl s).orderly _ _, fun _ => .refl s⟩

end TodoRouter

/-! ### The promo codes -/

namespace PromoRouter

/-- The methods that the path of a request allows, if it leads anywhere. -/
def allowed? (r : Request) : Option (List Method) :=
  (Resource.ofTarget? r.target).map Resource.allowed

/-- The path presents this segment as a code. -/
def Presents (r : Request) (segment : String) : Prop :=
  Resource.ofTarget? r.target = some (.validate segment) ∨
    Resource.ofTarget? r.target = some (.redeem segment)

/-- What can be wrong with a request in itself: the code that it presents, or that it has none. -/
inductive Unacceptable (r : Request) : Prop where
  | parameter {segment : String} (path : Presents r segment) (method : r.method = "POST")
      (param : decodeSegment? segment = none)
  | blank {segment code : String} (path : Presents r segment) (method : r.method = "POST")
      (param : decodeSegment? segment = some code) (blank : Text.allBlank code = true)
  | missing (path : Resource.ofTarget? r.target = some .missingCode) (method : r.method = "POST")

/-- The path redeems a code that is kept under this key. -/
def Redeems (r : Request) (key : String) : Prop :=
  ∃ segment code, Resource.ofTarget? r.target = some (.redeem segment) ∧
    decodeSegment? segment = some code ∧ PromoCode.keyOf code = key

theorem refuses_noCode : noCode.Refuses := Nat.le_refl 400

section
variable {σ : Type} {segment : String} {next : String → StateM σ Response}

theorem withCode_none (h : decodeSegment? segment = none) :
    withCode segment next = pure (invalidParameter "code") := by
  unfold withCode
  rw [h]

theorem withCode_blank {code : String} (h : decodeSegment? segment = some code)
    (hblank : Text.allBlank code = true) : withCode segment next = pure noCode := by
  unfold withCode
  rw [h]
  exact if_pos hblank

theorem withCode_some {code : String} (h : decodeSegment? segment = some code)
    (hblank : Text.allBlank code = false) : withCode segment next = next code := by
  unfold withCode
  rw [h]
  exact if_neg (by simp [hblank])

end

section
variable {σ : Type} [KeyValue σ] [NumberSource ρ] {now : Time.Instant} {ids : List String}
  {r : Request} {x : Resource} {m : Method}

theorem respond_eq (now : Time.Instant) (ids : List String) (r : Request) :
    (respond now ids r : StateM (σ × ρ) (Option Response)) =
      (route r (Resource.ofTarget? r.target) Resource.allowed fun x _ =>
        OptionT.mk (handle now ids x)).run := by
  unfold respond route
  dsimp only
  cases Resource.ofTarget? r.target <;> rfl

theorem respond_handled (hx : Resource.ofTarget? r.target = some x)
    (hm : Method.ofName? r.method = some m) (hmem : m ∈ x.allowed) :
    (respond now ids r : StateM (σ × ρ) (Option Response)) =
      Option.map (fun a => (a.sentTo r).shared r) <$> handle now ids x := by
  rw [respond_eq, hx, route_handled hm hmem, OptionT.run_map, OptionT.run_mk]

end

/-- An unacceptable request reaches a handler that refuses it without the store. -/
theorem Unacceptable.handled [NumberSource ρ] {r : Request} (h : Unacceptable r) :
    ∃ x a, Resource.ofTarget? r.target = some x ∧ .post ∈ x.allowed ∧ r.method = "POST" ∧
      Response.Refuses a ∧
      ∀ (σ : Type) [KeyValue σ] (now : Time.Instant) (ids : List String),
        (handle now ids x : StateM (σ × ρ) (Option Response)) = pure (some a) := by
  -- both paths to a code go through the same check of its segment
  have hpresented : ∀ {segment : String} {a : Response}, Presents r segment → r.method = "POST" →
      a.Refuses → (∀ (σ : Type) (next : String → StateM σ Response),
        withCode segment next = pure a) →
      ∃ x a, Resource.ofTarget? r.target = some x ∧ .post ∈ x.allowed ∧ r.method = "POST" ∧
        Response.Refuses a ∧
        ∀ (σ : Type) [KeyValue σ] (now : Time.Instant) (ids : List String),
          (handle now ids x : StateM (σ × ρ) (Option Response)) = pure (some a) := by
    intro segment a path method ha hrefused
    obtain hx | hx := path
    all_goals
      refine ⟨_, a, hx, by simp [Resource.allowed], method, ha, fun σ _ now ids => ?_⟩
      change onStore (some <$> withCode segment _) = _
      rw [hrefused]
      rfl
  cases h with
  | parameter path method param =>
      exact hpresented path method (refuses_invalidParameter "code") fun σ next =>
        withCode_none param
  | blank path method param blank =>
      exact hpresented path method refuses_noCode fun σ next => withCode_blank param blank
  | missing path method =>
      exact ⟨_, _, path, by decide, method, refuses_noCode, fun σ _ now ids => rfl⟩

/-- An unacceptable request is refused alike by every store. -/
theorem respond_unacceptable [NumberSource ρ] (now : Time.Instant) (ids : List String)
    {r : Request} (h : Unacceptable r) :
    ∃ a : Response, a.Refuses ∧ ∀ (σ : Type) [KeyValue σ],
      (respond now ids r : StateM (σ × ρ) (Option Response)) = pure (some a) := by
  obtain ⟨x, a, hx, hmem, hmethod, ha, hhandle⟩ := h.handled (ρ := ρ)
  refine ⟨(a.sentTo r).shared r, ha.sentTo r, fun σ _ => ?_⟩
  rw [respond_handled hx (by rw [hmethod]; rfl) hmem, hhandle, map_pure]
  rfl

/-! ### The transaction of a presented code -/

theorem transacts_withCode {touches : String → Prop} {segment : String}
    (next : ∀ (σ : Type) [KeyValue σ], String → StateM σ Response)
    (h : ∀ code, decodeSegment? segment = some code →
      Transacts PromoCode touches fun σ _ => next σ code) :
    Transacts PromoCode touches fun σ _ => withCode segment (next σ) := by
  cases hcode : decodeSegment? segment with
  | none =>
      exact .without (invalidParameter "code") (by decide : 400 ≠ 500) fun σ _ => withCode_none hcode
  | some code =>
      cases hblank : Text.allBlank code with
      | true => exact .without noCode (by decide : 400 ≠ 500) fun σ _ => withCode_blank hcode hblank
      | false =>
          simp only [withCode_some hcode hblank]
          exact h code hcode

theorem status_verdict (valid : Bool) (body : Bytes) :
    (Response.json (statusOf valid) body).status ≠ 500 := by
  cases valid with
  | false => exact (by decide : 400 ≠ 500)
  | true => exact (by decide : 200 ≠ 500)

theorem transacts_validate (now : Time.Instant) (code : String) :
    Transacts PromoCode (fun _ => False) fun σ _ =>
      answer (Promo.validate now code : Action σ Validation) fun v =>
        .json (statusOf v.valid) (Json.encode v) :=
  .within (fun v : Validation => status_verdict v.valid _) (fun _ hwrites => absurd rfl hwrites)
    fun _ _ => congrArg (answer · _) (Promo.validate_eq_transact now code)

/-- A code is written only when the answer is that it was valid. -/
theorem transacts_redeem (now : Time.Instant) (code : String) :
    Transacts PromoCode (· = PromoCode.keyOf code) fun σ _ =>
      answer (Promo.redeem now code : Action σ Redemption) fun v =>
        .json (statusOf v.valid) (Json.encode v) := by
  refine .within (fun v : Redemption => status_verdict v.valid _) (fun c? hwrites => ⟨rfl, ?_⟩)
    fun _ _ => congrArg (answer · _) (Promo.redeem_eq_transact now code)
  cases hverdict : Promo.verdict now c? with
  | error why => simp [Promo.redeemed, hverdict, Except.toOption] at hwrites
  | ok c =>
      refine Response.succeeds_of_status 200 ?_ (by decide)
      simp [Promo.redeemed, hverdict, Promo.judged, Validation.toRedemption,
        Validation.accepted, statusOf, Response.json]

/-- Whatever a resource but the sample codes does comes to one transaction at most, and all but the
redemption of a code write nothing. -/
theorem handle_transacts [NumberSource ρ] (now : Time.Instant) (ids : List String) {x : Resource}
    (hx : x ≠ .sampleCodes) :
    ∃ y : ∀ (σ : Type) [KeyValue σ], StateM σ Response,
      Transacts PromoCode (fun key => ∃ segment code, x = .redeem segment ∧
        decodeSegment? segment = some code ∧ PromoCode.keyOf code = key) y ∧
      ∀ (σ : Type) [KeyValue σ],
        (handle now ids x : StateM (σ × ρ) (Option Response)) = onStore (some <$> y σ) := by
  cases x with
  | sampleCodes => exact absurd rfl hx
  | health =>
      exact ⟨fun σ _ => pure healthy, .without healthy (by decide : 200 ≠ 500) fun σ _ => rfl,
        fun σ _ => rfl⟩
  | missingCode =>
      exact ⟨fun σ _ => pure noCode, .without noCode (by decide : 400 ≠ 500) fun σ _ => rfl,
        fun σ _ => rfl⟩
  | validate segment =>
      refine ⟨_, transacts_withCode (fun σ _ code => answer (Promo.validate now code) fun v =>
        .json (statusOf v.valid) (Json.encode v)) fun code _ => ?_, fun σ _ => rfl⟩
      exact (transacts_validate now code).mono fun key hkey => hkey.elim
  | redeem segment =>
      refine ⟨_, transacts_withCode (fun σ _ code => answer (Promo.redeem now code) fun v =>
        .json (statusOf v.valid) (Json.encode v)) fun code hcode => ?_, fun σ _ => rfl⟩
      exact (transacts_redeem now code).mono fun key hkey => ⟨segment, code, rfl, hcode, hkey.symm⟩

section
variable [FaultPlan φ] [NumberSource ρ]

/-- Whatever a resource but the sample codes does is orderly, and all but the redemption of a code
leave the store untouched. -/
theorem handle_orderly (now : Time.Instant) (ids : List String) {r : Request} {x : Resource}
    (hx : Resource.ofTarget? r.target = some x) (hsample : x ≠ .sampleCodes)
    (s : Faulty Contents φ) (source : ρ) :
    ∃ a s', handle now ids x (s, source) = (some a, (s', source)) ∧
      Orderly (Redeems r) a s s' ∧ ((∀ segment, x ≠ .redeem segment) → s.Untouched s') := by
  obtain ⟨y, htransacts, hhandle⟩ := handle_transacts (ρ := ρ) now ids hsample
  rw [hhandle]
  refine ⟨_, _, rfl, (htransacts.orderly s).mono ?_, fun hredeem => ?_⟩
  · rintro key ⟨segment, code, rfl, hcode, hkey⟩
    exact ⟨segment, code, hx, hcode, hkey⟩
  · refine (htransacts.mono ?_).untouched s
    rintro key ⟨segment, code, heq, -, -⟩
    exact hredeem segment heq

theorem respond_orderly (now : Time.Instant) (ids : List String) {r : Request}
    (h : ¬ (Resource.ofTarget? r.target = some .sampleCodes ∧ r.method = "POST"))
    (s : Faulty Contents φ) (source : ρ) :
    ∃ a s', respond now ids r (s, source) = (some a, (s', source)) ∧
      Orderly (Redeems r) a s s' ∧
      (r.Idle (allowed? r) ∨ (∃ segment, Resource.ofTarget? r.target = some (.validate segment)) →
        s.Untouched s') := by
  obtain ⟨x, m, hx, hm, hmem⟩ | hroute := route_cases r (Resource.ofTarget? r.target) Resource.allowed
  · have hsample : x ≠ .sampleCodes := by
      rintro rfl
      obtain rfl := List.mem_singleton.mp hmem
      exact h ⟨hx, List.mem_singleton.mp (Method.mem_names_of_ofName? hm)⟩
    obtain ⟨a, s', hhandle, horderly, huntouched⟩ := handle_orderly now ids hx hsample s source
    refine ⟨(a.sentTo r).shared r, s', ?_, horderly.of_status (Response.status_sentTo r a), ?_⟩
    · rw [respond_handled hx hm hmem]
      change (Option.map _ (handle now ids x (s, source)).1, (handle now ids x (s, source)).2) = _
      rw [hhandle]
      rfl
    · rintro (hidle | ⟨segment, hvalidate⟩)
      · refine huntouched fun segment => ?_
        rintro rfl
        unfold allowed? at hidle
        rw [hx] at hidle
        rw [hidle.eq_get hm hmem] at hmem
        cases List.mem_singleton.mp hmem
      · refine huntouched fun segment' => ?_
        rintro rfl
        rw [hx] at hvalidate
        cases hvalidate
  · rw [respond_eq, hroute]
    exact ⟨_, s, rfl, (Untouched.refl s).orderly _ _, fun _ => .refl s⟩

end
end PromoRouter

/-! ### Both routers -/

/-- A refused request changes nothing, and an accepted one touches one entry. Whatever the store
holds and however it fails, a response without success leaves the store as it was, and any response
comes after one write at most, which is under the key of the todo list or of the code that is
redeemed. Nothing is written, nor tried to be, by idle requests and validations. And a request that
is refused for what it says itself gets one and the same response from all stores, without a call to
any of them. -/
theorem refused_without_trace [FaultPlan φ] [NumberSource ρ] (fresh : String) (now : Time.Instant)
    (ids : List String) (r : Request) (s : Faulty Contents φ) (source : ρ) :
    (Orderly (· = TodoList.listKey) (TodoRouter.respond fresh r s).1 s
        (TodoRouter.respond fresh r s).2 ∧
      (r.Idle (TodoRouter.allowed? r) → s.Untouched (TodoRouter.respond fresh r s).2) ∧
      (TodoRouter.Unacceptable r → ∃ a : Response, a.Refuses ∧
        ∀ (σ : Type) [KeyValue σ], (TodoRouter.respond fresh r : StateM σ Response) = pure a)) ∧
    ((¬ (PromoRouter.Resource.ofTarget? r.target = some .sampleCodes ∧ r.method = "POST") →
        ∃ a s', PromoRouter.respond now ids r (s, source) = (some a, (s', source)) ∧
          Orderly (PromoRouter.Redeems r) a s s' ∧
          (r.Idle (PromoRouter.allowed? r) ∨
              (∃ segment, PromoRouter.Resource.ofTarget? r.target = some (.validate segment)) →
            s.Untouched s')) ∧
      (PromoRouter.Unacceptable r → ∃ a : Response, a.Refuses ∧ ∀ (σ : Type) [KeyValue σ],
        (PromoRouter.respond now ids r : StateM (σ × ρ) (Option Response)) = pure (some a))) := by
  obtain ⟨htodo, hidle⟩ := TodoRouter.respond_orderly fresh r s
  exact ⟨⟨htodo, hidle, TodoRouter.respond_unacceptable fresh⟩,
    fun h => PromoRouter.respond_orderly now ids h s source,
    PromoRouter.respond_unacceptable now ids⟩

theorem refused_without_trace_unreadable :
    let now : Time.Instant := ⟨19800, 0, 0, by decide, by decide, by decide, by decide, by decide⟩
    let code := Text.encode ("\x7b\"code\":\"SAVE\",\"validFrom\":\"2024-01-01T00:00:00Z\"," ++
      "\"validTo\":\"2024-07-01T00:00:00Z\",\"discount\":0.25,\"used\":false\x7d")
    let plan : List FaultRule := [⟨.set, 0, some 1, .storage "disk full"⟩]
    let s : Faulty Contents (List FaultRule) :=
      ⟨Table.ofList [("all_todos", [0]), ("save", code)], plan, 0⟩
    let source : Scripted := ⟨[], [], []⟩
    let look : Request := ⟨"HEAD", "/api/todos", [], []⟩
    let redeem : Request := ⟨"POST", "/apply/Save", [], []⟩
    let change : Request := ⟨"PUT", "/api/todos/%ff", [], []⟩
    let blank : Request := ⟨"POST", "/validate/%20", [], []⟩
    s.Untouched (TodoRouter.respond "1" look s).2 ∧
      (∃ a s', PromoRouter.respond now [] redeem (s, source) = (some a, (s', source)) ∧
        a.status = 500 ∧ s'.store = s.store) ∧
      (∃ a : Response, a.Refuses ∧
        ∀ (σ : Type) [KeyValue σ], (TodoRouter.respond "1" change : StateM σ Response) = pure a) ∧
      ∃ a : Response, a.Refuses ∧ ∀ (σ : Type) [KeyValue σ],
        (PromoRouter.respond now [] blank : StateM (σ × Scripted) (Option Response)) =
          pure (some a) := by
  intro now code plan s source look redeem change blank
  have hlook : look.Idle (TodoRouter.allowed? look) := .inl (by decide)
  have hsample : ¬ (PromoRouter.Resource.ofTarget? redeem.target = some .sampleCodes ∧
      redeem.method = "POST") := by decide
  have hchange : TodoRouter.Unacceptable change :=
    have hpath : TodoRouter.Resource.ofTarget? change.target = some (.todo "%ff") := by decide
    .parameter hpath (m := .put) (by decide) (by decide) (by decide)
  have hblank : PromoRouter.Unacceptable blank :=
    have hpath : PromoRouter.Presents blank "%20" := .inl (by decide)
    have hcode : decodeSegment? "%20" = some " " := by decide
    .blank hpath (by decide) hcode (by decide)
  have hstatus : (PromoRouter.respond now [] redeem (s, source)).1.map Response.status = some 500 :=
    by decide +kernel
  obtain ⟨a, s', hredeem, horderly, -⟩ :=
    (refused_without_trace "1" now [] redeem s source).2.1 hsample
  rw [hredeem] at hstatus
  have ha : a.status = 500 := Option.some.inj hstatus
  have hfails : ¬ a.Succeeds := by
    unfold Response.Succeeds
    omega
  exact ⟨(refused_without_trace "1" now [] look s source).1.2.1 hlook,
    ⟨a, s', hredeem, ha, horderly.refused hfails⟩,
    (refused_without_trace "1" now [] change s source).1.2.2 hchange,
    (refused_without_trace "1" now [] blank s source).2.2 hblank⟩

end TodoPromo
