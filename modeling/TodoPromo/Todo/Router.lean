import TodoPromo.Http.Body
import TodoPromo.Http.Message
import TodoPromo.Http.Resource
import TodoPromo.Todo.List

/-! # The interface of the todo list

The whole list stands under `/api/todos`, and each todo under its id below that. A request takes
the identifier that a created todo gets. The path is checked before the body, and the body before
the list is looked at. -/

namespace TodoPromo.TodoRouter

open Http

/-- What a path leads to. The segment of a todo is not decoded yet. -/
inductive Resource where
  | health
  | todos
  | todo (segment : String)
  deriving DecidableEq, Repr

namespace Resource

def ofTarget? (target : String) : Option Resource :=
  match pathSegments target with
  | ["", "health"] => some health
  | ["", "api", "todos"] => some todos
  | ["", "api", "todos", segment] => if segment.isEmpty then none else some (todo segment)
  | _ => none

def allowed : Resource → List Method
  | health => [.get]
  | todos => [.get, .post, .delete]
  | todo _ => [.put, .post, .delete]

end Resource

variable {σ : Type} [KeyValue σ]

/-- A todo, or the answer that there is none. -/
def foundOr404 : Option Todo → Response
  | some t => .json 200 (Json.encode t)
  | none => .text 404 "Todo Not Found"

/-- Goes on with the content that the body gives. -/
def withContent (r : Request) (next : String → StateM σ Response) : StateM σ Response :=
  match readBody (α := TodoContent) r with
  | .ok payload => next payload.content
  | .error e => return .badRequest e.message

/-- Goes on with the id that a segment stands for. -/
def withId (segment : String) (next : String → StateM σ Response) : StateM σ Response :=
  match decodeSegment? segment with
  | some id => next id
  | none => return invalidParameter "id"

/-- Answers an allowed method of a resource. -/
def handle (fresh : String) (r : Request) : Resource → Method → StateM σ Response
  | .health, _ => return healthy
  | .todos, .get => answer TodoList.list fun ts => .json 200 (Json.encode ts)
  | .todos, .delete => answer TodoList.clearCompleted fun ts => .json 200 (Json.encode ts)
  | .todos, _ => withContent r fun content =>
    answer (TodoList.add fresh content) fun t => .json 201 (Json.encode t)
  | .todo segment, .put => withId segment fun id => withContent r fun content =>
    answer (TodoList.update id content) foundOr404
  | .todo segment, .post => withId segment fun id => answer (TodoList.toggle id) foundOr404
  | .todo segment, _ => withId segment fun id =>
    answer (TodoList.delete id) fun found =>
      if found then .empty 204 else .text 404 "Todo Not Found"

/-- Answers a request; `fresh` is the id of a todo that it creates. -/
def respond (fresh : String) (r : Request) : StateM σ Response := do
  let resource := Resource.ofTarget? r.target
  let response ← dispatch r (resource.map Resource.allowed) fun m =>
    match resource with
    | some x => handle fresh r x m
    | none => return .empty 404
  return response.shared r

end TodoPromo.TodoRouter
