import TodoPromo.Json.Record
import TodoPromo.Store.Basic

/-! # The todo list

Todos, and the body of the requests that create or change one. All todos are kept as one list under
one key of a store. Every change loads the list, changes it and writes it back with a single write; a
change that finds nothing to change does not write. -/

namespace TodoPromo

structure Todo where
  id : String
  content : String
  completed : Bool
  deriving DecidableEq, Repr

/-- What a client sends to create a todo, or to change its content. -/
structure TodoContent where
  content : String
  deriving DecidableEq, Repr

instance : Json.Record Todo where
  shape := ⟨"Todo", [.required "id" .text, .required "content" .text, .required "completed" .flag]⟩
  toRow t := (t.id, t.content, t.completed, ())
  ofRow := fun (id, content, completed, ()) => ⟨id, content, completed⟩
  ofRow_toRow _ := rfl

instance : Json.Record TodoContent where
  shape := ⟨"TodoPayload", [.required "content" .text]⟩
  toRow p := (p.content, ())
  ofRow := fun (content, ()) => ⟨content⟩
  ofRow_toRow _ := rfl

end TodoPromo

namespace TodoPromo.TodoList

/-! ### The list -/

/-- The key of the whole list. -/
def listKey : String := "all_todos"

/-- Changes the first todo with this id: the changed todo and the whole list, if there is one. -/
def modifyFirst (id : String) (f : Todo → Todo) : List Todo → Option (Todo × List Todo)
  | [] => none
  | t :: rest =>
    if t.id = id then some (f t, f t :: rest)
    else (modifyFirst id f rest).map fun (changed, rest) => (changed, t :: rest)

variable {σ : Type} [KeyValue σ]

/-- The stored list; empty when nothing was stored yet. -/
def load : Action σ (List Todo) := do
  return (← KeyValue.read? listKey).getD []

def save (todos : List Todo) : Action σ Unit := KeyValue.write listKey todos

/-- All todos in the order of their creation. -/
def list : Action σ (List Todo) := load

/-- Appends a new todo with a fresh id. Empty content is refused before the store is touched. -/
def add (id content : String) : Action σ Todo := do
  if content.isEmpty then throw (.validation "content for new todo can't be empty")
  let todo : Todo := ⟨id, content, false⟩
  let todos ← load
  save (todos ++ [todo])
  return todo

/-- Changes the first todo with this id, and returns it as it is now. -/
def modify (id : String) (f : Todo → Todo) : Action σ (Option Todo) := do
  match modifyFirst id f (← load) with
  | none => return none
  | some (changed, todos) =>
    save todos
    return some changed

/-- Replaces the content of the first todo with this id. -/
def update (id content : String) : Action σ (Option Todo) :=
  modify id fun t => { t with content }

/-- Flips the state of the first todo with this id. -/
def toggle (id : String) : Action σ (Option Todo) :=
  modify id fun t => { t with completed := !t.completed }

/-- Removes every todo with this id, and tells whether there was one. -/
def delete (id : String) : Action σ Bool := do
  let todos ← load
  let left := todos.filter (·.id ≠ id)
  if left.length = todos.length then return false
  save left
  return true

/-- Removes the completed todos, and returns the others. -/
def clearCompleted : Action σ (List Todo) := do
  let left := (← load).filter (!·.completed)
  save left
  return left

end TodoPromo.TodoList
