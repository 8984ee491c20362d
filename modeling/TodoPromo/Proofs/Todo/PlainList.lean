import TodoPromo.Proofs.Services.Calls
import TodoPromo.Proofs.Store.Outcomes
import TodoPromo.Proofs.Todo.Requests

/-! # The todo list as a plain list

The calls on the todo list, said of a list in memory (`PlainList.step`). On a store without faults
that holds a list in any spelling, or none, every sequence of calls is answered as the plain list
answers it, and after each of them the store holds the plain list (`answered_as_plain_list`). -/

namespace TodoPromo

/-! ### The plain list -/

namespace PlainList

/-- Changes the first todo with this id at its place: that todo as it is then, if there is one, and
the whole list. -/
def changeFirst (id : String) (f : Todo → Todo) (ts : List Todo) : Option Todo × List Todo :=
  match ts.findIdx? fun t => t.id = id with
  | some i => (ts[i]?.map f, ts.modify i f)
  | none => (none, ts)

/-- What a call returns, and the list after it. -/
def step : TodoCall → List Todo → Except ActionError TodoReply × List Todo
  | .list, ts => (.ok (.todos ts), ts)
  | .add id content, ts =>
    if content = "" then (.error (.validation "content for new todo can't be empty"), ts)
    else (.ok (.todo ⟨id, content, false⟩), ts ++ [⟨id, content, false⟩])
  | .update id content, ts =>
    let (changed?, ts) := changeFirst id (fun t => { t with content }) ts
    (.ok (.found changed?), ts)
  | .toggle id, ts =>
    let (changed?, ts) := changeFirst id (fun t => { t with completed := !t.completed }) ts
    (.ok (.found changed?), ts)
  | .delete id, ts => (.ok (.deleted (ts.any fun t => t.id = id)), ts.filter fun t => t.id ≠ id)
  | .clearCompleted, ts =>
    (.ok (.todos (ts.filter fun t => !t.completed)), ts.filter fun t => !t.completed)

theorem changeFirst_append {id : String} (f : Todo → Todo) {before behind : List Todo} {t : Todo}
    (hbefore : ∀ u ∈ before, u.id ≠ id) (ht : t.id = id) :
    changeFirst id f (before ++ t :: behind) = (some (f t), before ++ f t :: behind) := by
  have hfind : (before ++ t :: behind).findIdx? (fun u => u.id = id) = some before.length := by
    induction before with
    | nil => simp [List.findIdx?_cons, ht]
    | cons u before ih =>
        have hu : ¬ u.id = id := hbefore u (by simp)
        rw [List.cons_append, List.findIdx?_cons, ih fun w hw => hbefore w (by simp [hw])]
        simp [hu]
  have hmodify : ∀ l : List Todo, (l ++ t :: behind).modify l.length f = l ++ f t :: behind := by
    intro l
    induction l with
    | nil => rfl
    | cons u l ih => simp [ih]
  unfold changeFirst
  simp [hfind, hmodify]

theorem changeFirst_of_forall_ne {id : String} (f : Todo → Todo) {ts : List Todo}
    (h : ∀ t ∈ ts, t.id ≠ id) : changeFirst id f ts = (none, ts) := by
  have hfind : ts.findIdx? (fun t => t.id = id) = none := by
    simpa [List.findIdx?_eq_none_iff] using h
  unfold changeFirst
  rw [hfind]

end PlainList

/-! ### Edits of a plain list -/

namespace TodoList

theorem changeFirst_eq_modified (id : String) (f : Todo → Todo) (ts : List Todo) :
    PlainList.changeFirst id f ts = ((modified id f ts).1, (modified id f ts).2.getD ts) := by
  unfold modified
  cases hmodify : modifyFirst id f ts with
  | none => exact PlainList.changeFirst_of_forall_ne f (modifyFirst_eq_none.mp hmodify)
  | some p =>
      obtain ⟨before, t, behind, rfl, hafter, hchanged, hid, hbefore⟩ := modifyFirst_eq_some hmodify
      rw [PlainList.changeFirst_append f hbefore hid]
      simp [hafter, hchanged]

theorem removed_eq (id : String) (ts : List Todo) :
    (removed id ts).1 = ts.any (fun t => t.id = id) ∧
      (removed id ts).2.getD ts = ts.filter fun t => t.id ≠ id := by
  unfold removed
  by_cases hlength : (ts.filter (·.id ≠ id)).length = ts.length
  · have hall := List.length_filter_eq_length_iff.mp hlength
    have hnone : ts.any (fun t => t.id = id) = false := by
      simpa [List.any_eq_false] using hall
    rw [if_pos hlength]
    exact ⟨hnone.symm, (List.filter_eq_self.mpr hall).symm⟩
  · have hsome : ts.any (fun t => t.id = id) = true := by
      refine Bool.of_not_eq_false fun hnone => hlength ?_
      exact List.length_filter_eq_length_iff.mpr (by simpa [List.any_eq_false] using hnone)
    rw [if_neg hlength]
    exact ⟨hsome.symm, rfl⟩

end TodoList

namespace TodoCall

/-- A call that is not refused does to a list what it does to the plain list. -/
theorem step_eq_effect {call : TodoCall} (h : call.refusal? = none) (ts : List Todo) :
    PlainList.step call ts = (.ok (call.effect ts).1, (call.effect ts).2.getD ts) := by
  cases call with
  | list => rfl
  | add id content =>
      have hcontent : ¬ content = "" := by
        rintro rfl
        cases h
      simp [PlainList.step, hcontent, effect, TodoReply.of, TodoList.appended]
  | update id content =>
      simp only [PlainList.step, TodoList.changeFirst_eq_modified, effect, TodoReply.of]
  | toggle id => simp only [PlainList.step, TodoList.changeFirst_eq_modified, effect, TodoReply.of]
  | delete id =>
      obtain ⟨hany, hleft⟩ := TodoList.removed_eq id ts
      simp only [PlainList.step, effect, TodoReply.of, hany, hleft]
  | clearCompleted => rfl

theorem step_of_refusal {call : TodoCall} {e : ActionError} (h : call.refusal? = some e)
    (ts : List Todo) : PlainList.step call ts = (.error e, ts) := by
  cases call with
  | add id content =>
      simp only [refusal?] at h
      by_cases hempty : content.isEmpty = true
      · rw [if_pos hempty] at h
        obtain rfl := Option.some.inj h
        simp [PlainList.step, String.isEmpty_iff.mp hempty]
      · rw [if_neg hempty] at h
        cases h
  | _ => cases h

end TodoCall

/-! ### Sequences of calls -/

/-- The second table holds this list of todos, and is the first one in everything else. -/
structure Contents.WithList (c₀ c : Contents) (ts : List Todo) : Prop where
  keeps : c.Keeps ts
  others : ∀ key, key ≠ TodoList.listKey → c.get? key = c₀.get? key

/-- One call on a store that holds a list. -/
theorem Contents.WithList.outcome {c₀ c : Contents} {ts : List Todo} (h : c₀.WithList c ts)
    (call : TodoCall) :
    (call.action.outcome c).1 = (PlainList.step call ts).1 ∧
      c₀.WithList (call.action.outcome c).2 (PlainList.step call ts).2 := by
  cases hcall : call.refusal? with
  | some e =>
      rw [TodoCall.action_eq_throw hcall, TodoCall.step_of_refusal hcall]
      exact ⟨rfl, h⟩
  | none =>
      obtain ⟨ts?, hstored, rfl⟩ := h.keeps.stored
      have hout : call.action.outcome c =
          (.ok (call.effect (ts?.getD [])).1,
            c.commit TodoList.listKey (call.effect (ts?.getD [])).2) := by
        rw [TodoCall.action_eq_edit hcall, TodoList.edit, KeyValue.transact_table, hstored]
      rw [hout, TodoCall.step_eq_effect hcall]
      refine ⟨rfl, h.keeps.commit _, fun key hkey => ?_⟩
      rw [Contents.get?_commit_of_ne hkey.symm, h.others key hkey]

/-- The calls on the todo list are those on a plain list: on a store without faults that holds a
list in whatever spelling, or none, every call of a sequence returns what the plain list returns,
and after each of them the store holds the plain list and is otherwise as it was. To add a todo
without content does not even look at the store. -/
theorem answered_as_plain_list {c : Contents} {ts : List Todo} (h : c.Keeps ts)
    (calls : List TodoCall) :
    (inTurn (fun call => call.action.outcome) calls c).1 = (inTurn PlainList.step calls ts).1 ∧
      (∀ n, c.WithList (inTurn (fun call => call.action.outcome) (calls.take n) c).2
        (inTurn PlainList.step (calls.take n) ts).2) ∧
      ∀ (σ : Type) [KeyValue σ] (id : String),
        ((TodoCall.add id "").action : Action σ TodoReply) =
          throw (.validation "content for new todo can't be empty") := by
  have hstart : c.WithList c ts := ⟨h, fun _ _ => rfl⟩
  have hstep : ∀ call ∈ calls, ∀ c' ts', c.WithList c' ts' →
      (call.action.outcome c').1 = (PlainList.step call ts').1 ∧
        c.WithList (call.action.outcome c').2 (PlainList.step call ts').2 :=
    fun call _ c' ts' h' => h'.outcome call
  refine ⟨(inTurn_eq hstep hstart).1, fun n => ?_, fun σ _ id => ?_⟩
  · exact (inTurn_eq (fun call hcall => hstep call (List.mem_of_mem_take hcall)) hstart).2
  · exact TodoCall.action_eq_throw rfl

theorem answered_as_plain_list_spelled :
    let text := Text.encode (" [[\"a\",\"\\ud83d\\ude00\",false]," ++
      "\x7b\"completed\":true,\"content\":\"\\\"\",\"id\":\"a\"\x7d]")
    let c : Contents := Table.ofList [("all_todos", text), ("other", [0])]
    let ts : List Todo := [⟨"a", "😀", false⟩, ⟨"a", "\"", true⟩]
    let calls : List TodoCall :=
      [.toggle "a", .add "b" "\n", .add "c" "", .clearCompleted, .update "b" "", .delete "b"]
    c.Keeps ts ∧
      (inTurn (fun call => call.action.outcome) calls c).1 = (inTurn PlainList.step calls ts).1 := by
  intro text c ts calls
  have h : c.Keeps ts := by
    have hread : (Json.decode text).toOption = some ts := by decide +kernel
    change Json.decode text = .ok ts
    cases hdecode : (Json.decode text : Except Json.Failure (List Todo)) with
    | ok ts' =>
        rw [hdecode] at hread
        exact congrArg Except.ok (Option.some.inj hread)
    | error e =>
        rw [hdecode] at hread
        cases hread
  exact ⟨h, (answered_as_plain_list h calls).1⟩

end TodoPromo
