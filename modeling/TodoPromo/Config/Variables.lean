import TodoPromo.Config.Basic
import TodoPromo.Table
import TodoPromo.Text.Utf8

/-! # Configuration by variables

The variables of a process. Their values are bytes; a value that is not a text counts as no value
for whoever asks for a text.

Each variable replaces a default. A text that is of no use is an error, and no silent default; the
first one in a fixed order counts. -/

namespace TodoPromo

/-- Variables and their values. -/
abbrev Environment := Table String Bytes

/-- The text of a variable, if it is set to a text. -/
def Environment.text? (env : Environment) (name : String) : Option String :=
  (env.get? name).bind Text.decode?

end TodoPromo

namespace TodoPromo.Config

/-! ### Settings -/

/-- Reads the digits of a number that must stay below a limit, after those read so far. -/
def digitsBelow (limit : Nat) : Nat → List Char → Except ValueError Nat
  | n, [] => .ok n
  | n, c :: cs =>
    if !c.isDigit then .error .invalidDigit
    else
      let n := 10 * n + (c.toNat - '0'.toNat)
      if limit ≤ n then .error .tooLarge else digitsBelow limit n cs

/-- A number below a limit, perhaps with a plus sign in front. -/
def unsigned (limit : Nat) (s : String) : Except ValueError Nat :=
  match s.toList with
  | [] => .error .emptyNumber
  | ['+'] => .error .invalidDigit
  | '+' :: cs => digitsBelow limit 0 cs
  | cs => digitsBelow limit 0 cs

/-- A backend by its name, in letters of any case. -/
def backendNamed (s : String) : Except ValueError Backend :=
  match s.toLower with
  | "file" => .ok .file
  | "memory" => .ok .memory
  | name => .error (.unknownBackend name)

/-- What `read` makes of the trimmed value of a variable, if it is set. -/
def readVariable {α : Type} (lookup : String → Option String) (read : String → Except ValueError α)
    (name : String) : Except ConfigError (Option α) :=
  match lookup name with
  | none => .ok none
  | some value =>
    match read (Text.trim value) with
    | .ok a => .ok (some a)
    | .error reason => .error (.badVariable name value reason)

/-- The defaults, changed by the variables that are set. -/
def ofVariables (lookup : String → Option String) : Except ConfigError Config := do
  let threads ← readVariable lookup (unsigned UInt64.size) "TOKIO_WORKER_THREADS"
  let todoPort ← readVariable lookup (unsigned UInt16.size) "TODO_PORT"
  let promoPort ← readVariable lookup (unsigned UInt16.size) "PROMO_PORT"
  let backend ← readVariable lookup backendNamed "STORE_BACKEND"
  let port (p : Option Nat) (d : UInt16) : UInt16 := (p.map UInt16.ofNat).getD d
  return {
    host := (lookup "SERVER_HOST").getD default.host
    workerThreads := threads.or default.workerThreads
    todoPort := port todoPort default.todoPort
    promoPort := port promoPort default.promoPort
    seedCount := default.seedCount
    store := {
      backend := backend.getD default.store.backend
      dataDir := (lookup "STORE_DIR").getD default.store.dataDir
      nameSpace := (lookup "STORE_NAMESPACE").getD default.store.nameSpace } }

end TodoPromo.Config
