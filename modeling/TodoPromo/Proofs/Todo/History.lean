import TodoPromo.Proofs.Todo.Requests

/-! # What a client knows from the responses

A client that sees nothing but its requests and their responses can rebuild the todo list: it takes
notice of what each response acknowledges (`notice?`) and keeps a list of its own (`Client.hear`).
However often the storage fails, that list is the stored one after every request, its ids are in the
order of their creation, and no response acknowledges anything but what was asked for
(`acknowledged_history`). -/

namespace TodoPromo.TodoRouter

open Http TodoList

/-! ### The client -/

/-- What a response acknowledges. -/
inductive Notice where
  | created (t : Todo)
  | changed (t : Todo)
  | removed (id : String)
  | remaining (ts : List Todo)

/-- What the response to a request acknowledges, if anything. -/
def notice? (r : Request) (a : Response) : Option Notice :=
  match Resource.ofTarget? r.target, r.method, a.status with
  | some .todos, "POST", 201 => (Json.decode a.body).toOption.map .created
  | some .todos, "DELETE", 200 => (Json.decode a.body).toOption.map .remaining
  | some (.todo _), "PUT", 200 => (Json.decode a.body).toOption.map .changed
  | some (.todo _), "POST", 200 => (Json.decode a.body).toOption.map .changed
  | some (.todo segment), "DELETE", 204 => (decodeSegment? segment).map .removed
  | _, _, _ => none

/-- What a client keeps: its list, and the ids of the todos whose creation was acknowledged, in
that order. -/
structure Client where
  view : List Todo
  created : List String

namespace Client

def learn (c : Client) : Notice → Client
  | .created t => ⟨c.view ++ [t], c.created ++ [t.id]⟩
  | .changed t => { c with view := c.view.map fun u => if u.id = t.id then t else u }
  | .removed id => { c with view := c.view.filter (·.id ≠ id) }
  | .remaining ts => { c with view := ts }

/-- The client after the response to a request. -/
def hear (c : Client) (r : Request) (a : Response) : Client := ((notice? r a).map c.learn).getD c

end Client

/-- What a response may say to a client with this list; `fresh` is the id for a created todo. -/
def Honest (fresh : String) (r : Request) (view : List Todo) (a : Response) : Prop :=
  match Resource.ofTarget? r.target, r.method with
  | some .todos, "GET" => a.status = 200 → Json.decode a.body = .ok view
  | some .todos, "POST" => a.status = 201 → ∃ content,
      readBody r = .ok (⟨content⟩ : TodoContent) ∧
      Json.decode a.body = .ok (⟨fresh, content, false⟩ : Todo)
  | some .todos, "DELETE" => a.status = 200 →
      Json.decode a.body = .ok (view.filter (!·.completed))
  | some (.todo segment), "PUT" => a.status = 200 → ∃ old ∈ view, ∃ content,
      decodeSegment? segment = some old.id ∧ readBody r = .ok (⟨content⟩ : TodoContent) ∧
      Json.decode a.body = .ok { old with content }
  | some (.todo segment), "POST" => a.status = 200 → ∃ old ∈ view,
      decodeSegment? segment = some old.id ∧
      Json.decode a.body = .ok { old with completed := !old.completed }
  | some (.todo segment), "DELETE" => a.status = 204 → ∃ old ∈ view,
      decodeSegment? segment = some old.id
  | _, _ => True

theorem Client.hear_some {c : Client} {r : Request} {a : Response} {n : Notice}
    (h : notice? r a = some n) : c.hear r a = c.learn n := by
  unfold hear
  rw [h]
  rfl

theorem Client.hear_none {c : Client} {r : Request} {a : Response} (h : notice? r a = none) :
    c.hear r a = c := by
  unfold hear
  rw [h]
  rfl

/-! ### Responses that acknowledge nothing -/

theorem notice?_of_refuses {a : Response} (h : a.Refuses) (r : Request) : notice? r a = none := by
  unfold Response.Refuses at h
  unfold notice?
  split
  all_goals first
    | rfl
    | omega

theorem notice?_of_options {r : Request} (h : r.method = "OPTIONS") (a : Response) :
    notice? r a = none := by
  unfold notice?
  rw [h]
  split
  all_goals first
    | rfl
    | contradiction

theorem honest_of_refuses {a : Response} (h : a.Refuses) (fresh : String) (r : Request)
    (view : List Todo) : Honest fresh r view a := by
  unfold Response.Refuses at h
  unfold Honest
  split
  all_goals first
    | trivial
    | intro hstatus
      omega

theorem honest_of_options {r : Request} (h : r.method = "OPTIONS") (fresh : String)
    (view : List Todo) (a : Response) : Honest fresh r view a := by
  unfold Honest
  rw [h]
  split
  all_goals trivial

/-! ### Responses that acknowledge something -/

section
variable {r : Request} {segment : String}

theorem status_shared_json (r : Request) (status : Nat) (bs : Bytes) :
    ((Response.json status bs).shared r).status = status := rfl

theorem body_shared_json (r : Request) (status : Nat) (bs : Bytes) :
    ((Response.json status bs).shared r).body = bs := rfl

theorem notice?_created (hx : Resource.ofTarget? r.target = some .todos)
    (hm : r.method = "POST") (t : Todo) :
    notice? r ((Response.json 201 (Json.encode t)).shared r) = some (.created t) := by
  unfold notice?
  rw [hx, hm, status_shared_json, body_shared_json, decode_todo]
  rfl

theorem notice?_remaining (hx : Resource.ofTarget? r.target = some .todos)
    (hm : r.method = "DELETE") (ts : List Todo) :
    notice? r ((Response.json 200 (Json.encode ts)).shared r) = some (.remaining ts) := by
  unfold notice?
  rw [hx, hm, status_shared_json, body_shared_json, decode_todos]
  rfl

theorem notice?_changed (hx : Resource.ofTarget? r.target = some (.todo segment))
    (hm : r.method = "PUT" ∨ r.method = "POST") (t : Todo) :
    notice? r ((Response.json 200 (Json.encode t)).shared r) = some (.changed t) := by
  unfold notice?
  obtain hm | hm := hm
  all_goals
    rw [hx, hm, status_shared_json, body_shared_json, decode_todo]
    rfl

theorem notice?_removed {id : String} (hx : Resource.ofTarget? r.target = some (.todo segment))
    (hm : r.method = "DELETE") (hid : decodeSegment? segment = some id) :
    notice? r ((Response.empty 204).shared r) = some (.removed id) := by
  unfold notice?
  rw [hx, hm]
  change (decodeSegment? segment).map Notice.removed = _
  rw [hid]
  rfl

theorem notice?_of_get (h : r.method = "GET" ∨ r.method = "HEAD") (a : Response) :
    notice? r a = none := by
  unfold notice?
  obtain h | h := h
  all_goals
    rw [h]
    split
    all_goals first
      | rfl
      | contradiction

end

/-! ### Requests that were carried out -/

section
variable {fresh : String} {r : Request} {view ts : List Todo} {x : Resource} {m : Method}
  {a : Response}

theorem map_replace_of_modifyFirst {id : String} {f : Todo → Todo} {t : Todo}
    (hf : ∀ u, (f u).id = u.id) (hnodup : (view.map Todo.id).Nodup)
    (h : modifyFirst id f view = some (t, ts)) :
    (view.map fun u => if u.id = t.id then t else u) = ts := by
  obtain ⟨before, u, behind, rfl, rfl, rfl, -, -⟩ := modifyFirst_eq_some h
  rw [List.map_append, List.map_cons, List.nodup_append, List.nodup_cons] at hnodup
  obtain ⟨-, ⟨hbehind, -⟩, hbefore⟩ := hnodup
  have hkeep : ∀ l : List Todo, (∀ w ∈ l, w.id ≠ u.id) →
      (l.map fun w => if w.id = (f u).id then f u else w) = l := by
    intro l hl
    rw [hf u]
    exact (List.map_congr_left fun w hw => if_neg (hl w hw)).trans (List.map_id' l)
  rw [List.map_append, List.map_cons, if_pos (hf u).symm, hkeep before, hkeep behind]
  · intro w hw heq
    exact hbehind (List.mem_map.mpr ⟨w, hw, heq⟩)
  · intro w hw heq
    exact hbefore _ (List.mem_map_of_mem hw) _ (by simp) heq

/-- What a changed todo means to a client whose list has no repeated ids. -/
theorem hear_modified {segment id : String} {f : Todo → Todo} {t : Todo} {created : List String}
    (hx : Resource.ofTarget? r.target = some (.todo segment))
    (hm : r.method = "PUT" ∨ r.method = "POST") (hf : ∀ u, (f u).id = u.id)
    (hnodup : (view.map Todo.id).Nodup) (h : modifyFirst id f view = some (t, ts)) :
    (⟨view, created⟩ : Client).hear r ((Response.json 200 (Json.encode t)).shared r) =
      ⟨ts, created⟩ := by
  rw [Client.hear_some (notice?_changed hx hm t)]
  change Client.mk (view.map fun u => if u.id = t.id then t else u) created = _
  rw [map_replace_of_modifyFirst hf hnodup h]

/-- The client learns the list that the request leaves; it hears of at most one new todo, which
has the fresh id. -/
theorem Carried.hear (h : Carried fresh r view x m a ts)
    (hx : Resource.ofTarget? r.target = some x) (hm : Method.ofName? r.method = some m)
    (hnodup : (view.map Todo.id).Nodup) (created : List String) :
    ∃ new, (⟨view, created⟩ : Client).hear r ((a.sentTo r).shared r) = ⟨ts, created ++ new⟩ ∧
      new.Sublist [fresh] ∧ (ts.map Todo.id).Sublist (view.map Todo.id ++ new) := by
  have hname := Method.mem_names_of_ofName? hm
  have hget : m = .get → ∀ a, notice? r a = none := by
    rintro rfl a
    exact notice?_of_get (by simpa [Method.names] using hname) a
  have hsent : m ≠ .get → a.sentTo r = a := by
    intro hne
    refine Response.sentTo_of_ne (fun hhead => hne ?_) a
    rw [hhead] at hm
    exact (Option.some.inj hm).symm
  cases h with
  | health =>
      rw [Client.hear_none (hget rfl _)]
      exact ⟨[], by simp, by simp, by simp⟩
  | listed =>
      rw [Client.hear_none (hget rfl _)]
      exact ⟨[], by simp, by simp, by simp⟩
  | @created content body =>
      rw [hsent (by decide), Client.hear_some (notice?_created hx (List.mem_singleton.mp hname) _)]
      exact ⟨[fresh], rfl, .refl _, by simp⟩
  | cleared =>
      rw [hsent (by decide),
        Client.hear_some (notice?_remaining hx (List.mem_singleton.mp hname) _)]
      refine ⟨[], by simp [Client.learn], by simp, ?_⟩
      simpa using List.filter_sublist.map Todo.id
  | updated param body changes =>
      rw [hsent (by decide), hear_modified hx (.inl (List.mem_singleton.mp hname))
        (by intro u; rfl) hnodup changes]
      refine ⟨[], by simp, by simp, ?_⟩
      rw [ids_of_modifyFirst (by intro u; rfl) changes]
      simp
  | toggled param changes =>
      rw [hsent (by decide), hear_modified hx (.inr (List.mem_singleton.mp hname))
        (by intro u; rfl) hnodup changes]
      refine ⟨[], by simp, by simp, ?_⟩
      rw [ids_of_modifyFirst (by intro u; rfl) changes]
      simp
  | removed param found =>
      rw [hsent (by decide),
        Client.hear_some (notice?_removed hx (List.mem_singleton.mp hname) param)]
      refine ⟨[], by simp [Client.learn], by simp, ?_⟩
      simpa using List.filter_sublist.map Todo.id

/-- What a request that was carried out says of itself is true. -/
theorem Carried.honest (h : Carried fresh r view x m a ts)
    (hx : Resource.ofTarget? r.target = some x) (hm : Method.ofName? r.method = some m) :
    Honest fresh r view ((a.sentTo r).shared r) := by
  have hname := Method.mem_names_of_ofName? hm
  have hread : m = .get → r.method = "GET" ∨ r.method = "HEAD" := by
    rintro rfl
    simpa [Method.names] using hname
  unfold Honest
  rw [hx]
  cases h with
  | health =>
      obtain hget | hhead := hread rfl
      · rw [hget]
        trivial
      · rw [hhead]
        trivial
  | listed =>
      obtain hget | hhead := hread rfl
      · rw [hget, Response.sentTo_of_ne (by rw [hget]; decide)]
        exact fun _ => decode_todos view
      · rw [hhead]
        trivial
  | created body =>
      have hpost := List.mem_singleton.mp hname
      rw [hpost, Response.sentTo_of_ne (by rw [hpost]; decide)]
      exact fun _ => ⟨_, body, decode_todo _⟩
  | cleared =>
      have hdelete := List.mem_singleton.mp hname
      rw [hdelete, Response.sentTo_of_ne (by rw [hdelete]; decide)]
      exact fun _ => decode_todos _
  | updated param body changes =>
      have hput := List.mem_singleton.mp hname
      obtain ⟨before, u, behind, rfl, -, rfl, rfl, -⟩ := modifyFirst_eq_some changes
      rw [hput, Response.sentTo_of_ne (by rw [hput]; decide)]
      exact fun _ => ⟨u, by simp, _, param, body, decode_todo _⟩
  | toggled param changes =>
      have hpost := List.mem_singleton.mp hname
      obtain ⟨before, u, behind, rfl, -, rfl, rfl, -⟩ := modifyFirst_eq_some changes
      rw [hpost, Response.sentTo_of_ne (by rw [hpost]; decide)]
      exact fun _ => ⟨u, by simp, param, decode_todo _⟩
  | removed param found =>
      have hdelete := List.mem_singleton.mp hname
      obtain ⟨u, hu, rfl⟩ := found
      rw [hdelete]
      exact fun _ => ⟨u, hu, param⟩

end

/-! ### Sessions -/

/-- A request, and the id of the todo that it may create. -/
structure Exchange where
  fresh : String
  request : Request

/-- A server, and a client that talks to it. -/
structure Session (φ : Type) where
  server : Faulty Contents φ
  client : Client

namespace Session

variable {φ : Type} [FaultPlan φ]

/-- An empty store whose faults follow a plan, and a client that knows nothing yet. -/
def start (plan : φ) : Session φ := ⟨⟨∅, plan, 0⟩, ⟨[], []⟩⟩

def answer (s : Session φ) (x : Exchange) : Response :=
  (respond x.fresh x.request s.server).1

/-- The client sends a request and hears the response. -/
def exchange (s : Session φ) (x : Exchange) : Session φ :=
  ⟨(respond x.fresh x.request s.server).2, s.client.hear x.request (s.answer x)⟩

/-- The session after these requests, one after another. -/
def after (plan : φ) (sent : List Exchange) : Session φ := sent.foldl exchange (start plan)

/-- What holds between requests, `ids` being the ids that were used up. -/
structure Consistent (s : Session φ) (ids : List String) : Prop where
  sound : s.server.Sound s.client.view
  order : (s.client.view.map Todo.id).Sublist s.client.created
  created : s.client.created.Sublist ids

variable {s : Session φ} {ids : List String}

theorem consistent_start {plan : φ} (h : FaultPlan.StorageOnly plan) :
    (start plan).Consistent [] :=
  ⟨⟨h, Contents.keeps_empty⟩, .refl [], .refl []⟩

/-- One request keeps the client consistent with the store, and its response is honest. -/
theorem Consistent.exchange (h : s.Consistent ids) (hnodup : ids.Nodup) (x : Exchange) :
    (s.exchange x).Consistent (ids ++ [x.fresh]) ∧
      Honest x.fresh x.request s.client.view (s.answer x) := by
  obtain ⟨a, server, ts, hrespond, hsound, hends⟩ := respond_ends h.sound x.fresh x.request
  have hanswer : s.answer x = a.shared x.request := congrArg Prod.fst hrespond
  have hserver : (s.exchange x).server = server := congrArg Prod.snd hrespond
  have hclient : (s.exchange x).client = s.client.hear x.request (a.shared x.request) :=
    congrArg (s.client.hear x.request) hanswer
  rw [hanswer]
  obtain ⟨resource, m, a', hx, hm, rfl, hcarried⟩ | ⟨rfl, hidle⟩ := hends
  · refine ⟨?_, hcarried.honest hx hm⟩
    have hview : (s.client.view.map Todo.id).Nodup := (h.order.trans h.created).nodup hnodup
    obtain ⟨new, hhear, hnew, hts⟩ := hcarried.hear hx hm hview s.client.created
    rw [show s.client = ⟨s.client.view, s.client.created⟩ from rfl, hhear] at hclient
    refine ⟨?_, ?_, ?_⟩
    · rw [hserver, hclient]
      exact hsound
    · rw [hclient]
      exact hts.trans (h.order.append_right new)
    · rw [hclient]
      exact h.created.append hnew
  · have hnone : notice? x.request (a.shared x.request) = none := by
      obtain hoptions | hrefuses := hidle
      · exact notice?_of_options hoptions _
      · exact notice?_of_refuses hrefuses _
    rw [Client.hear_none hnone] at hclient
    refine ⟨⟨?_, ?_, ?_⟩, ?_⟩
    · rw [hserver, hclient]
      exact hsound
    · rw [hclient]
      exact h.order
    · rw [hclient]
      exact h.created.trans (List.sublist_append_left ids [x.fresh])
    · obtain hoptions | hrefuses := hidle
      · exact honest_of_options hoptions _ _ _
      · exact honest_of_refuses hrefuses _ _ _

/-- Every sequence of requests with distinct fresh ids leaves the client consistent. -/
theorem Consistent.foldl (h : s.Consistent ids) (sent : List Exchange)
    (hnodup : (ids ++ sent.map Exchange.fresh).Nodup) :
    (sent.foldl Session.exchange s).Consistent (ids ++ sent.map Exchange.fresh) := by
  induction sent generalizing s ids with
  | nil => simpa using h
  | cons x rest ih =>
      have hids : ids.Nodup := (List.nodup_append.mp hnodup).1
      rw [List.map_cons, List.append_cons] at hnodup ⊢
      exact ih (h.exchange hids x).1 hnodup

/-- The acknowledged history determines the todo list. However the storage fails, after every
prefix of a sequence of requests the store holds the client's list; its ids are distinct and in the
order in which the creations were acknowledged; and what the next response says is true. -/
theorem acknowledged_history {plan : φ} (hplan : FaultPlan.StorageOnly plan)
    {sent : List Exchange} (hfresh : (sent.map Exchange.fresh).Nodup) (n : Nat) :
    let s := after plan (sent.take n)
    s.server.store.Keeps s.client.view ∧
      (s.client.view.map Todo.id).Sublist s.client.created ∧ s.client.created.Nodup ∧
      ∀ x, sent[n]? = some x → Honest x.fresh x.request s.client.view (s.answer x) := by
  have hnodup : ((sent.take n).map Exchange.fresh).Nodup :=
    ((List.take_sublist n sent).map Exchange.fresh).nodup hfresh
  have h := (consistent_start hplan).foldl (sent.take n) (by simpa using hnodup)
  rw [List.nil_append] at h
  exact ⟨h.sound.keeps, h.order, h.created.nodup hnodup,
    fun x _ => (h.exchange hnodup x).2⟩

theorem acknowledged_history_retried :
    let plan : List FaultRule := [⟨.set, 0, some 1, .storage "disk full"⟩]
    let create : Request := ⟨"POST", "/api/todos", [("content-type", "application/json")],
      Text.encode "\x7b\"content\":\"milk\"\x7d"⟩
    let sent : List Exchange := [⟨"a", create⟩, ⟨"b", create⟩]
    let s := after plan (sent.take 2)
    s.client.view = [⟨"b", "milk", false⟩] ∧ s.server.store.Keeps s.client.view := by
  intro plan create sent s
  have hplan : FaultPlan.StorageOnly plan :=
    FaultRule.storageOnly (by simp [plan])
  have hfresh : (sent.map Exchange.fresh).Nodup := by decide
  exact ⟨by decide +kernel, (acknowledged_history hplan hfresh 2).1⟩

end Session

end TodoPromo.TodoRouter
