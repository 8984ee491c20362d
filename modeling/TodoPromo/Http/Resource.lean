import TodoPromo.Http.Message
import TodoPromo.Text.Characters
import TodoPromo.Text.Utf8

/-! # Resources and methods

The path of a target is what stands before the query. It is cut at its slashes first; only then is
a segment decoded, so that an encoded slash belongs to its segment.

A router finds the resource of a path and lets it handle the request. The methods that a resource
allows decide first: `OPTIONS` is answered without it, `HEAD` is a `GET` whose body is dropped,
and any other method that it does not allow is refused. -/

namespace TodoPromo.Http

/-! ### Paths -/

/-- The segments of the path of a target. The first one is empty, as a path begins with a slash. -/
def pathSegments (target : String) : List String :=
  (Text.parts '/' (target.toList.takeWhile fun c => c != '?' && c != '#')).map String.ofList

/-- What a segment stands for, if it is a text. -/
def decodeSegment? (segment : String) : Option String :=
  Text.decode? (Text.percentDecode (Text.encode segment))

/-! ### Methods -/

/-- The methods that resources handle. -/
inductive Method where
  | get
  | post
  | put
  | delete
  deriving DecidableEq, Repr

namespace Method

def ofName? : String → Option Method
  | "GET" => some get
  | "HEAD" => some get
  | "POST" => some post
  | "PUT" => some put
  | "DELETE" => some delete
  | _ => none

/-- The names under which a method is listed: whoever allows `GET` allows `HEAD`. -/
def listed : Method → String
  | get => "GET,HEAD"
  | post => "POST"
  | put => "PUT"
  | delete => "DELETE"

end Method

/-- The header that lists the allowed methods. -/
def allowHeader (allowed : List Method) : String × String :=
  ("allow", ",".intercalate (allowed.map Method.listed))

/-- Answers a request. `allowed` are the methods of the resource, if the path leads to one, and
`handle` answers a method among them. -/
def dispatch {m : Type → Type} [Monad m] (r : Request) (allowed : Option (List Method))
    (handle : Method → m Response) : m Response :=
  match allowed with
  | none => return .empty (if r.method = "OPTIONS" then 200 else 404)
  | some methods =>
    if r.method = "OPTIONS" then return ⟨200, [allowHeader methods], []⟩
    else match Method.ofName? r.method with
      | some method =>
        if methods.contains method then do
          let response ← handle method
          return if r.method = "HEAD" then { response with body := [] } else response
        else return ⟨405, [allowHeader methods], []⟩
      | none => return ⟨405, [allowHeader methods], []⟩

/-- The answer of a service that is alive. -/
def healthy : Response :=
  .json 200 (Json.writeObject
    [Json.writeMember (Json.writeString "status") (Json.writeString "ok")])

/-- The answer to a path parameter that is not a text. -/
def invalidParameter (name : String) : Response :=
  .text 400 s!"Invalid URL: Invalid UTF-8 in `{name}`"

end TodoPromo.Http
