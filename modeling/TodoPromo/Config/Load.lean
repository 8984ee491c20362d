import TodoPromo.Config.Basic
import TodoPromo.Config.Variables
import TodoPromo.Toml.Document

/-! # Loading a configuration

A document has a section for each part of the program. A section is a table, or a list of its fields
in order; a point in time stands for a section without fields. Fields and sections may be missing,
and other keys are ignored.

A file with a document decides if it is there. Only if it is missing, the variables are asked. A file
that is there but cannot be read, or is no configuration, is an error. -/

namespace TodoPromo.Config

open Toml (Item Entries)

/-! ### Documents -/

/-- The fields of a section, by name. -/
abbrev Section := String → Option Item

/-- The fields of an item that is used as a section, whose fields are named in order. -/
def sectionOf (fields : List String) : Item → Option Section
  | .table _ _ es => some (Entries.item? · es)
  | .array items => some (Entries.item? · (fields.zip items))
  | .tables items => some (Entries.item? · (fields.zip (items.map (Item.table false .explicit))))
  | .moment => some fun _ => none
  | _ => none

/-- A section of a document; a missing one has no fields. -/
def section? (document : Entries) (name : String) (fields : List String) :
    Option (Option Section) :=
  match document.item? name with
  | none => some none
  | some item => (sectionOf fields item).map some

/-- What `read` makes of a field, or the default of a missing one. -/
def field {α : Type} (s : Option Section) (name : String) (default : α) (read : Item → Option α) :
    Option α :=
  match s.bind (· name) with
  | none => some default
  | some item => read item

def text? : Item → Option String
  | .text s => some s
  | _ => none

/-- A number that is not negative and below a limit. -/
def number? (limit : Nat) : Item → Option Nat
  | .integer n => if 0 ≤ n && n < limit then some n.toNat else none
  | _ => none

def port? (item : Item) : Option UInt16 := (number? UInt16.size item).map UInt16.ofNat

/-- A backend by its name. The name may also be the only key of a table, with nothing in it. -/
def backend? : Item → Option Backend
  | .text s => named s
  | .table _ _ [(s, .table _ _ [])] => named s
  | .table _ _ [(s, .array [])] => named s
  | .table _ _ [(s, .tables [])] => named s
  | _ => none
where
  named : String → Option Backend
    | "file" => some .file
    | "memory" => some .memory
    | _ => none

/-- The configuration that the table of a document spells. A server section that does not give the
number of threads leaves it open. -/
def ofEntries? (document : Entries) : Option Config := do
  let server ← section? document "server" ["host", "worker_threads"]
  let todo ← section? document "todo" ["port"]
  let promo ← section? document "promo" ["port", "seed_count"]
  let store ← section? document "store" ["backend", "data_dir", "namespace"]
  let threads := if server.isSome then none else default.workerThreads
  return {
    host := ← field server "host" default.host text?
    workerThreads := ← field server "worker_threads" threads fun i => (number? UInt64.size i).map some
    todoPort := ← field todo "port" default.todoPort port?
    promoPort := ← field promo "port" default.promoPort port?
    seedCount := ← field promo "seed_count" default.seedCount (number? UInt64.size)
    store := {
      backend := ← field store "backend" default.store.backend backend?
      dataDir := ← field store "data_dir" default.store.dataDir text?
      nameSpace := ← field store "namespace" default.store.nameSpace text? } }

/-- The configuration that a document spells. -/
def ofDocument? (document : String) : Option Config := do ofEntries? (← Toml.parse? document)

/-! ### Loading -/

/-- The configuration in the contents of a file. -/
def ofContents (path : String) (contents : Bytes) : Except ConfigError Config :=
  match Text.decode? contents with
  | none => .error (.notUnicode path)
  | some document =>
    match ofDocument? document with
    | some c => .ok c
    | none => .error (.malformed path)

/-- The configuration that comes from the outcome of reading a file, before it is validated. -/
def ofFile (env : Environment) (path : String) :
    Except Files.IoError Bytes → Except ConfigError Config
  | .ok contents => ofContents path contents
  | .error .notFound => ofVariables env.text?
  | .error e => .error (.unreadableFile path e)

variable {δ : Type} [Files.Disk δ]

/-- The usable configuration in a file, or in the variables if there is no such file. -/
def loadFrom (env : Environment) (path : String) : StateM δ (Except ConfigError Config) := do
  let contents ← (Files.Disk.read path : Files.Attempt δ Bytes).run
  return (ofFile env path contents).bind checked

/-- The file that holds the configuration: a variable may name it. -/
def filePath (env : Environment) : String := (env.text? "CONFIG_PATH").getD "config.toml"

/-- The usable configuration of the program. -/
def load (env : Environment) : StateM δ (Except ConfigError Config) := loadFrom env (filePath env)

end TodoPromo.Config
