import TodoPromo.Json.Typed
import TodoPromo.Store.Basic

/-! # Requests and responses

What a router is given and what it answers, apart from the transport, and the few forms that all
answers have.

Every origin may read the answers and send credentials. The headers that say so repeat what the
request asks for: its origin always, and in the answer to `OPTIONS` the method and the headers of
the request that is to follow. -/

namespace TodoPromo.Http

/-- A request. The target is the path and the query. -/
structure Request where
  method : String
  target : String
  headers : List (String × String)
  body : Bytes

/-- The first header of this name; the case of header names does not matter. -/
def Request.header? (r : Request) (name : String) : Option String :=
  (r.headers.find? fun h => h.1.toLower == name).map (·.2)

/-- A response. Header names are in small letters. -/
structure Response where
  status : Nat
  headers : List (String × String)
  body : Bytes
  deriving DecidableEq

namespace Response

def empty (status : Nat) : Response := ⟨status, [], []⟩

def json (status : Nat) (body : Bytes) : Response :=
  ⟨status, [("content-type", "application/json")], body⟩

def text (status : Nat) (body : String) : Response :=
  ⟨status, [("content-type", "text/plain; charset=utf-8")], Text.encode body⟩

/-- An error as a JSON object: a title, and a message unless the client must not see one. -/
def error (status : Nat) (title : String) (message : Option String) : Response :=
  let member (name value : String) :=
    Json.writeMember (Json.writeString name) (Json.writeString value)
  json status (Json.writeObject
    (member "error" title :: (message.map (member "message")).toList))

def badRequest (message : String) : Response := error 400 "Bad Request" (some message)

/-- The response to a request that a service could not do. The details of a failing store are
not shown. -/
def ofActionError : ActionError → Response
  | .validation detail => error 400 "Validation Error" (some detail)
  | .notFound detail => error 404 "Not Found" (some detail)
  | .storage _ => error 500 "Internal Server Error" none

end Response

/-- The outcome of an action as a response: what `f` makes of a success, or the error. -/
def answer {σ α : Type} (x : Action σ α) (f : α → Response) : StateM σ Response := do
  match ← x.run with
  | .ok a => return f a
  | .error e => return .ofActionError e

/-! ### Sharing with other origins -/

/-- The header that repeats another one of the request, if the request has it. -/
def repeated (r : Request) (name source : String) : List (String × String) :=
  ((r.header? source).map (name, ·)).toList

/-- The headers about sharing in the response to a request. -/
def sharingHeaders (r : Request) : List (String × String) :=
  [("vary", "origin, access-control-request-method, access-control-request-headers"),
    ("access-control-allow-credentials", "true")]
  ++ repeated r "access-control-allow-origin" "origin"
  ++ if r.method = "OPTIONS" then
      repeated r "access-control-allow-methods" "access-control-request-method"
      ++ repeated r "access-control-allow-headers" "access-control-request-headers"
    else []

/-- A response with the headers about sharing. -/
def Response.shared (r : Request) (response : Response) : Response :=
  { response with headers := response.headers ++ sharingHeaders r }

end TodoPromo.Http
