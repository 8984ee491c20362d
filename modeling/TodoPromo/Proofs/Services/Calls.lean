import TodoPromo.Proofs.Promo.Operations
import TodoPromo.Proofs.Todo.Operations

/-! # Calls of the services

The calls of both services on one store as data, what one of them does (`Operation.perform`), and
what a sequence of them does (`run`). A call on the todo list is one edit of the list, or it is
refused without a look at it (`TodoCall.action_eq_edit`); so what holds of edits need not be
proved of the six calls one by one. -/

namespace TodoPromo

/-! ### Calls on the todo list -/

/-- A call on the todo list. A new todo is given its id. -/
inductive TodoCall where
  | list
  | add (id content : String)
  | update (id content : String)
  | toggle (id : String)
  | delete (id : String)
  | clearCompleted

/-- What a call on the todo list returns. -/
inductive TodoReply where
  | todos (ts : List Todo)
  | todo (t : Todo)
  | found (t? : Option Todo)
  | deleted (any : Bool)

/-- An edit with its answer as a reply. -/
def TodoReply.of {α : Type} (reply : α → TodoReply) (f : List Todo → α × Option (List Todo))
    (ts : List Todo) : TodoReply × Option (List Todo) :=
  (reply (f ts).1, (f ts).2)

namespace TodoCall

variable {σ : Type} [KeyValue σ]

def action : TodoCall → Action σ TodoReply
  | list => .todos <$> TodoList.list
  | add id content => .todo <$> TodoList.add id content
  | update id content => .found <$> TodoList.update id content
  | toggle id => .found <$> TodoList.toggle id
  | delete id => .deleted <$> TodoList.delete id
  | clearCompleted => .todos <$> TodoList.clearCompleted

/-- Why a call is refused before the list is looked at, if it is. -/
def refusal? : TodoCall → Option ActionError
  | add _ content =>
    if content.isEmpty then some (.validation "content for new todo can't be empty") else none
  | _ => none

/-- What a call makes of a list: the reply, and the list that is written, if one is. -/
def effect : TodoCall → List Todo → TodoReply × Option (List Todo)
  | list => TodoReply.of .todos TodoList.shown
  | add id content => TodoReply.of .todo (TodoList.appended ⟨id, content, false⟩)
  | update id content => TodoReply.of .found (TodoList.modified id fun t => { t with content })
  | toggle id =>
    TodoReply.of .found (TodoList.modified id fun t => { t with completed := !t.completed })
  | delete id => TodoReply.of .deleted (TodoList.removed id)
  | clearCompleted => TodoReply.of .todos TodoList.opened

theorem map_edit {α : Type} (reply : α → TodoReply) (f : List Todo → α × Option (List Todo)) :
    reply <$> (TodoList.edit f : Action σ α) = TodoList.edit (TodoReply.of reply f) := by
  unfold TodoList.edit KeyValue.transact
  rw [map_bind]
  congr 1
  funext ts?
  cases hf : (f (ts?.getD [])).2 with
  | none => simp [TodoReply.of, hf]
  | some ts => simp [TodoReply.of, hf]

theorem action_eq_throw {c : TodoCall} {e : ActionError} (h : c.refusal? = some e) :
    (c.action : Action σ TodoReply) = throw e := by
  cases c with
  | add id content =>
      simp only [refusal?] at h
      by_cases hempty : content.isEmpty = true
      · rw [if_pos hempty] at h
        obtain rfl := Option.some.inj h
        change TodoReply.todo <$> (TodoList.add id content : Action σ Todo) = _
        rw [TodoList.add_eq_throw hempty]
        rfl
      · rw [if_neg hempty] at h
        cases h
  | _ => cases h

theorem action_eq_edit {c : TodoCall} (h : c.refusal? = none) :
    (c.action : Action σ TodoReply) = TodoList.edit c.effect := by
  cases c with
  | list => exact (congrArg _ TodoList.list_eq_edit).trans (map_edit _ _)
  | add id content =>
      have hempty : content.isEmpty = false := by
        simp only [refusal?] at h
        by_cases hempty : content.isEmpty = true
        · rw [if_pos hempty] at h
          cases h
        · exact Bool.eq_false_iff.mpr hempty
      exact (congrArg _ (TodoList.add_eq_edit hempty id)).trans (map_edit _ _)
  | update id content => exact (congrArg _ (TodoList.update_eq_edit id content)).trans (map_edit _ _)
  | toggle id => exact (congrArg _ (TodoList.toggle_eq_edit id)).trans (map_edit _ _)
  | delete id => exact (congrArg _ (TodoList.delete_eq_edit id)).trans (map_edit _ _)
  | clearCompleted => exact (congrArg _ TodoList.clearCompleted_eq_edit).trans (map_edit _ _)

end TodoCall

/-! ### Calls on the promo codes -/

/-- A call on the promo codes at a time. Sample codes are given their identifiers. -/
inductive PromoCall where
  | validate (now : Time.Instant) (input : String)
  | redeem (now : Time.Instant) (input : String)
  | seed (now : Time.Instant) (ids : List String)
  | storeAll (codes : List PromoCode)

/-- What a call on the promo codes returns. -/
inductive PromoReply where
  | validated (r : Except ActionError Validation)
  | redeemed (r : Except ActionError Redemption)
  | seeded (r : Except Promo.SeedError (List PromoCode))
  | stored (r : Except ActionError Unit)

/-- A store together with a source of random numbers, which an action does not touch. -/
def onStore {σ ρ α β : Type} (x : Action σ α) (reply : Except ActionError α → β) :
    StateM (σ × ρ) β := fun s =>
  (reply (x.outcome s.1).1, ((x.outcome s.1).2, s.2))

/-- A transaction behind a plan of faults, as a call with a reply. -/
theorem onStore_faulty {φ ρ α β γ : Type} [FaultPlan φ] [Json.Coded α] (key : String)
    (f : Option α → β × Option α) (reply : Except ActionError β → γ) (s : Faulty Contents φ × ρ) :
    ∃ r c calls writes, onStore (KeyValue.transact key f) reply s =
        (reply r, (⟨c, FaultPlan.after calls s.1.plan, writes⟩, s.2)) ∧
      KeyValue.Settles key f s.1.plan s.1.store r c := by
  obtain ⟨r, c, calls, writes, hout, hsettles⟩ := KeyValue.transact_faulty key f s.1
  refine ⟨r, c, calls, writes, ?_, hsettles⟩
  unfold onStore
  rw [hout]

namespace PromoCall

variable {σ ρ : Type} [KeyValue σ] [NumberSource ρ]

def perform : PromoCall → StateM (σ × ρ) PromoReply
  | validate now input => onStore (Promo.validate now input) .validated
  | redeem now input => onStore (Promo.redeem now input) .redeemed
  | seed now ids => fun s =>
    (.seeded (Promo.seed now ids s.2 s.1).1.1,
      ((Promo.seed now ids s.2 s.1).2, (Promo.seed now ids s.2 s.1).1.2))
  | storeAll codes => onStore (Promo.writeAll codes) .stored

end PromoCall

/-! ### Values of one service in the hands of the other -/

/-- A written todo list never reads as a code. -/
theorem decode_todos_as_code (ts : List Todo) :
    ∃ e, (Json.decode (Json.encode ts) : Except Json.Failure PromoCode) = .error e := by
  have hobjects : ∀ w ∈ ts.map Json.Coded.write, ∃ bs : Bytes, w = 0x7B :: bs := by
    intro w hw
    obtain ⟨t, -, rfl⟩ := List.mem_map.mp hw
    exact ⟨_, rfl⟩
  have hrow : Json.Gives (Json.Row.read (Json.Record.shape PromoCode) (Json.encode ts)) [] none :=
    Json.Row.read_objects hobjects
  obtain ⟨e, he⟩ := hrow.map (f := Json.Record.ofRow (α := PromoCode))
  exact ⟨e, Json.decode_of_error he⟩

/-! ### Sequences of calls -/

/-- A call of either service, or a write of something else to the store. -/
inductive Operation where
  | todo (c : TodoCall)
  | promo (c : PromoCall)
  | put (key : String) (value : Bytes)

inductive Reply where
  | todo (r : Except ActionError TodoReply)
  | promo (r : PromoReply)
  | put (r : Except ActionError Unit)

namespace Operation

/-- The calls that store codes, and direct writes. -/
def stores : Operation → Bool
  | promo (.seed _ _) => true
  | promo (.storeAll _) => true
  | put _ _ => true
  | _ => false

/-- What a call stores is meant for other keys. -/
def Spares (key : String) : Operation → Prop
  | promo (.seed _ ids) => ∀ id ∈ ids, PromoCode.keyOf id ≠ key
  | promo (.storeAll codes) => ∀ c ∈ codes, c.key ≠ key
  | put key' _ => key' ≠ key
  | _ => True

def perform {σ ρ : Type} [KeyValue σ] [NumberSource ρ] : Operation → StateM (σ × ρ) Reply
  | todo c => onStore c.action .todo
  | promo c => .promo <$> c.perform
  | put key value => onStore (KeyValue.set key value) .put

end Operation

/-- The replies to calls made one after another, and the state after them. -/
def run {σ ρ : Type} [KeyValue σ] [NumberSource ρ] : List Operation → StateM (σ × ρ) (List Reply)
  | [], s => ([], s)
  | op :: ops, s =>
    ((op.perform s).1 :: (run ops (op.perform s).2).1, (run ops (op.perform s).2).2)

section
variable {σ ρ : Type} [KeyValue σ] [NumberSource ρ]

theorem run_append (ops ops' : List Operation) (s : σ × ρ) :
    run (ops ++ ops') s =
      ((run ops s).1 ++ (run ops' (run ops s).2).1, (run ops' (run ops s).2).2) := by
  induction ops generalizing s with
  | nil => rfl
  | cons op ops ih =>
      rw [List.cons_append, run, ih]
      rfl

theorem length_run (ops : List Operation) (s : σ × ρ) : (run ops s).1.length = ops.length := by
  induction ops generalizing s with
  | nil => rfl
  | cons op ops ih => exact congrArg (· + 1) (ih _)

/-- The reply to a call depends on the calls before it only. -/
theorem getElem?_run (before after : List Operation) (op : Operation) (s : σ × ρ) :
    (run (before ++ op :: after) s).1[before.length]? =
      some (op.perform (run before s).2).1 := by
  rw [run_append, List.getElem?_append_right (Nat.le_of_eq (length_run before s)), length_run,
    Nat.sub_self]
  rfl

end

end TodoPromo
