import TodoPromo.Proofs.Json.Records
import TodoPromo.Proofs.Store.Transactions
import TodoPromo.Todo.List

/-! # The operations on the todo list as transactions

A written todo, and a written list of todos, read back as they were (`decode_todo`,
`decode_todos`). Every operation is an edit of the stored list (`edit`): a function from the list
to the answer and to the list that is written in its place, if one is. -/

namespace TodoPromo

/-! ### Written todos -/

theorem regularFields_todo : Json.RegularFields (Json.Record.shape Todo).fields :=
  Json.regularFields_required (l := [("id", .text), ("content", .text), ("completed", .flag)])
    (by decide)

theorem spells_todo (t : Todo) :
    Json.Spells (Json.Coded.read : Json.Reader Todo) (Json.encode t) (some t) := by
  have h := Json.spells_record regularFields_todo t
  have hrow : Json.Row.reread (Json.Record.shape Todo).fields (Json.Record.toRow t) =
      some (Json.Record.toRow t) := by
    simp [Json.Record.shape, Json.Record.toRow, Json.Row.reread, Json.Field.required]
    rfl
  rw [hrow] at h
  exact h

theorem decode_todo (t : Todo) : Json.decode (Json.encode t) = .ok t :=
  Json.decode_of_spells (spells_todo t)

theorem decode_todos (ts : List Todo) : Json.decode (Json.encode ts) = .ok ts :=
  Json.decode_encode_list fun t _ => spells_todo t

namespace TodoList

/-! ### Changing one todo -/

theorem modifyFirst_eq_none {id : String} {f : Todo → Todo} {ts : List Todo} :
    modifyFirst id f ts = none ↔ ∀ t ∈ ts, t.id ≠ id := by
  induction ts with
  | nil => simp [modifyFirst]
  | cons t rest ih =>
      by_cases h : t.id = id
      · simp [modifyFirst, h]
      · simp [modifyFirst, h, ih]

/-- The changed todo stands at its place; no todo in front of it has the id. -/
theorem modifyFirst_eq_some {id : String} {f : Todo → Todo} {ts ts' : List Todo} {t' : Todo}
    (h : modifyFirst id f ts = some (t', ts')) :
    ∃ before t behind, ts = before ++ t :: behind ∧ ts' = before ++ f t :: behind ∧ t' = f t ∧
      t.id = id ∧ ∀ u ∈ before, u.id ≠ id := by
  induction ts generalizing ts' with
  | nil => cases h
  | cons t rest ih =>
      unfold modifyFirst at h
      by_cases hid : t.id = id
      · rw [if_pos hid] at h
        obtain ⟨rfl, rfl⟩ := Prod.mk.inj (Option.some.inj h)
        exact ⟨[], t, rest, rfl, rfl, rfl, hid, by simp⟩
      · rw [if_neg hid, Option.map_eq_some_iff] at h
        obtain ⟨⟨changed, rest'⟩, hrest, heq⟩ := h
        obtain ⟨rfl, rfl⟩ := Prod.mk.inj heq
        obtain ⟨before, u, behind, rfl, rfl, hu, huid, hbefore⟩ := ih hrest
        refine ⟨t :: before, u, behind, rfl, rfl, hu, huid, ?_⟩
        exact List.forall_mem_cons.mpr ⟨hid, hbefore⟩

theorem ids_of_modifyFirst {id : String} {f : Todo → Todo} (hf : ∀ t, (f t).id = t.id)
    {ts ts' : List Todo} {t' : Todo} (h : modifyFirst id f ts = some (t', ts')) :
    ts'.map Todo.id = ts.map Todo.id := by
  obtain ⟨before, t, behind, rfl, rfl, -, -, -⟩ := modifyFirst_eq_some h
  simp [hf]

/-! ### Edits -/

variable {σ β : Type}

/-- One transaction on the stored list: from the list, the answer and what is written. -/
def edit [KeyValue σ] (f : List Todo → β × Option (List Todo)) : Action σ β :=
  KeyValue.transact listKey fun ts? => f (ts?.getD [])

/-- The list stays as it is, and is the answer. -/
def shown (ts : List Todo) : List Todo × Option (List Todo) := (ts, none)

/-- A todo is put at the end. -/
def appended (t : Todo) (ts : List Todo) : Todo × Option (List Todo) := (t, some (ts ++ [t]))

/-- The first todo with this id is changed, if there is one. -/
def modified (id : String) (f : Todo → Todo) (ts : List Todo) :
    Option Todo × Option (List Todo) :=
  ((modifyFirst id f ts).map Prod.fst, (modifyFirst id f ts).map Prod.snd)

/-- The todos with this id are removed, if there are any. -/
def removed (id : String) (ts : List Todo) : Bool × Option (List Todo) :=
  if (ts.filter (·.id ≠ id)).length = ts.length then (false, none)
  else (true, some (ts.filter (·.id ≠ id)))

/-- The open todos are left, and are the answer. -/
def opened (ts : List Todo) : List Todo × Option (List Todo) :=
  (ts.filter (!·.completed), some (ts.filter (!·.completed)))

section
variable [KeyValue σ]

theorem list_eq_edit : (list : Action σ (List Todo)) = edit shown := by
  simp only [list, load, edit, KeyValue.transact, shown]

theorem add_eq_throw {content : String} (h : content.isEmpty = true) (id : String) :
    (add id content : Action σ Todo) =
      throw (.validation "content for new todo can't be empty") := by
  simp only [add, h, if_true]
  rfl

theorem add_eq_edit {content : String} (h : content.isEmpty = false) (id : String) :
    (add id content : Action σ Todo) = edit (appended ⟨id, content, false⟩) := by
  simp [add, h, load, save, edit, KeyValue.transact, appended]

theorem modify_eq_edit (id : String) (f : Todo → Todo) :
    (modify id f : Action σ (Option Todo)) = edit (modified id f) := by
  simp only [modify, load, save, edit, KeyValue.transact, bind_assoc, pure_bind, modified]
  congr 1
  funext ts?
  cases modifyFirst id f (ts?.getD []) with
  | none => rfl
  | some p => rfl

theorem update_eq_edit (id content : String) :
    (update id content : Action σ (Option Todo)) =
      edit (modified id fun t => { t with content }) :=
  modify_eq_edit id _

theorem toggle_eq_edit (id : String) :
    (toggle id : Action σ (Option Todo)) =
      edit (modified id fun t => { t with completed := !t.completed }) :=
  modify_eq_edit id _

theorem delete_eq_edit (id : String) : (delete id : Action σ Bool) = edit (removed id) := by
  simp only [delete, load, save, edit, KeyValue.transact, bind_assoc, pure_bind, removed]
  congr 1
  funext ts?
  split
  · rfl
  · rfl

theorem clearCompleted_eq_edit : (clearCompleted : Action σ (List Todo)) = edit opened := by
  simp only [clearCompleted, load, save, edit, KeyValue.transact, bind_assoc, pure_bind, opened]

end
end TodoList
end TodoPromo
