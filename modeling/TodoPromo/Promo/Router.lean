import TodoPromo.Http.Message
import TodoPromo.Http.Resource
import TodoPromo.Promo.Service

/-! # The interface of the promo codes

A code is presented as the last segment of a path, to be validated or to be applied; a third
resource fills the store with sample codes. A request takes the time and the identifiers of
the sample codes, whose number is the number of the codes. A request for sample codes has no
response when a window would begin beyond the calendar. -/

namespace TodoPromo.PromoRouter

open Http

/-- What a path leads to. The segment of a code is not decoded yet. -/
inductive Resource where
  | health
  | validate (segment : String)
  | redeem (segment : String)
  /-- A path that ends where the code should stand. -/
  | missingCode
  | sampleCodes
  deriving DecidableEq, Repr

namespace Resource

def ofTarget? (target : String) : Option Resource :=
  match pathSegments target with
  | ["", "health"] => some health
  | ["", "validate", segment] => some (if segment.isEmpty then missingCode else validate segment)
  | ["", "apply", segment] => some (if segment.isEmpty then missingCode else redeem segment)
  | ["", "seed-promocodes"] => some sampleCodes
  | _ => none

def allowed : Resource → List Method
  | health => [.get]
  | _ => [.post]

end Resource

variable {σ ρ : Type} [KeyValue σ] [NumberSource ρ]

/-- A computation over the store alone. -/
def onStore {α : Type} (x : StateM σ α) : StateM (σ × ρ) α := fun (s, source) =>
  let (a, s) := x s
  (a, (s, source))

/-- The answer to a request without a code. -/
def noCode : Response := .text 400 "Bad Request"

/-- The status of a verdict. -/
def statusOf (valid : Bool) : Nat := if valid then 200 else 400

/-- Goes on with the code that a segment stands for, unless it is blank. -/
def withCode (segment : String) (next : String → StateM σ Response) : StateM σ Response :=
  match decodeSegment? segment with
  | some code => if Text.allBlank code then return noCode else next code
  | none => return invalidParameter "code"

/-- Generates and stores sample codes, and answers with them. -/
def sampleResponse (now : Time.Instant) (ids : List String) : StateM (σ × ρ) (Option Response) :=
  fun (s, source) =>
    let ((result, source), s) := Promo.seed now ids source s
    let response := match result with
      | .ok codes => some (.json 201 (Json.encode codes))
      | .error (.service e) => some (.ofActionError e)
      | .error .beyondCalendar => none
    (response, (s, source))

/-- Answers an allowed method of a resource. -/
def handle (now : Time.Instant) (ids : List String) : Resource → StateM (σ × ρ) (Option Response)
  | .health => return some healthy
  | .missingCode => return some noCode
  | .validate segment => onStore <| some <$> withCode segment fun code =>
    answer (Promo.validate now code) fun v => .json (statusOf v.valid) (Json.encode v)
  | .redeem segment => onStore <| some <$> withCode segment fun code =>
    answer (Promo.redeem now code) fun v => .json (statusOf v.valid) (Json.encode v)
  | .sampleCodes => sampleResponse now ids

/-- Answers a request at this time. -/
def respond (now : Time.Instant) (ids : List String) (r : Request) :
    StateM (σ × ρ) (Option Response) := OptionT.run do
  let resource := Resource.ofTarget? r.target
  let response ← dispatch r (resource.map Resource.allowed) fun _ =>
    match resource with
    | some x => OptionT.mk (handle now ids x)
    | none => return .empty 404
  return response.shared r

end TodoPromo.PromoRouter
