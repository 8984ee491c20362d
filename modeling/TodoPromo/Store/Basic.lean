import TodoPromo.Json.Typed
import TodoPromo.Table
import TodoPromo.Text.Utf8

/-! # Stores

A store keeps bytes under keys. Services reach it through three calls only, each of which may fail
and may change the state; what they are built from is an `Action`. A table of keys and values is a
store that never fails.

A typed value is kept under a key as its JSON text. A key without a value is no error; a value that
does not read back is one. -/

namespace TodoPromo

/-- How a service reports that it could not do what it was asked for. -/
inductive ActionError where
  /-- The request itself is unacceptable. -/
  | validation (detail : String)
  /-- What was asked for does not exist. -/
  | notFound (detail : String)
  /-- The store failed, or holds something unreadable. -/
  | storage (detail : String)
  deriving DecidableEq, Repr

namespace ActionError

def message : ActionError → String
  | validation detail => "validation error: " ++ detail
  | notFound detail => "not found: " ++ detail
  | storage detail => "storage error: " ++ detail

/-- The error about a missing thing that is called `name`. -/
def missing (name : String) : ActionError := notFound (name ++ " not found")

end ActionError

/-- A computation over a state that may fail. The state survives a failure. -/
abbrev Action (σ : Type) := ExceptT ActionError (StateM σ)

namespace Action

variable {σ α : Type}

/-- The action of a function on states. -/
def ofFunction (f : σ → Except ActionError α × σ) : Action σ α := ExceptT.mk f

/-- The outcome of an action in a state, and the state after it. -/
def outcome (x : Action σ α) (s : σ) : Except ActionError α × σ := x.run s

@[simp] theorem outcome_ofFunction (f : σ → Except ActionError α × σ) (s : σ) :
    (ofFunction f).outcome s = f s := rfl

end Action

/-- What services need of a store. -/
class KeyValue (σ : Type) where
  /-- Whether a key has a value. -/
  has : String → Action σ Bool
  /-- The value of a key; it is an error if there is none. -/
  get : String → Action σ Bytes
  /-- Gives a key a value, in place of the one it had. -/
  set : String → Bytes → Action σ Unit

/-- The error of asking for the value of a key that has none. -/
def keyMissing (key : String) : ActionError := .missing ("key " ++ key)

/-! ### Stores in memory -/

/-- The contents of a store. -/
abbrev Contents := Table String Bytes

instance : KeyValue Contents where
  has key := .ofFunction fun t => (.ok (t.contains key), t)
  get key := .ofFunction fun t =>
    (match t.get? key with
      | some v => .ok v
      | none => .error (keyMissing key), t)
  set key value := .ofFunction fun t => (.ok (), t.insert key value)

/-! ### Values -/

namespace KeyValue

variable {σ α : Type} [KeyValue σ] [Json.Coded α]

/-- What follows from the outcome of getting the bytes under a key: a key that turns out to be
missing has no value. -/
def decodeFound : Except ActionError Bytes → Except ActionError (Option α)
  | .ok bs =>
    match Json.decode bs with
    | .ok a => .ok (some a)
    | .error e => .error (.storage e.message)
  | .error (.notFound _) => .ok none
  | .error e => .error e

/-- The value under a key, if there is one. -/
def read? (key : String) : Action σ (Option α) := do
  if ← has key then
    .ofFunction fun s =>
      let (found, s) := (get key).outcome s
      (decodeFound found, s)
  else return none

/-- Puts a value under a key, with a single write. -/
def write (key : String) (a : α) : Action σ Unit := set key (Json.encode a)

end KeyValue
end TodoPromo
