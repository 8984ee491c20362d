import TodoPromo.Config.EnvFile
import TodoPromo.Config.Load
import TodoPromo.Files.MapFile
import TodoPromo.Net.SocketAddress

/-! # Starting a service

What happens before a service listens: variables are taken from a file, the configuration is loaded,
the store is opened, and the address is put together. Each step may fail, and the first failure is
reported. -/

namespace TodoPromo

open Files (Disk)

/-- Why a service does not start. -/
inductive LaunchError where
  | config (e : ConfigError)
  /-- Host and port do not make an address. -/
  | badAddress (host : String) (port : UInt16)
  | store (e : ActionError)
  /-- There is something else where the data directory should be. -/
  | notDirectory (dir : String)
  | noDirectory (dir : String) (e : Files.IoError)
  deriving DecidableEq, Repr

def LaunchError.message : LaunchError → String
  | config e => "invalid configuration: " ++ e.message
  | badAddress host port => s!"invalid configuration: {host}:{port}: invalid socket address syntax"
  | store e => "store unavailable: " ++ e.message
  | notDirectory dir => dir ++ " exists but is not a directory"
  | noDirectory dir e => s!"cannot create {dir}: {e.message}"

/-- A store that was opened: a file, or a table in memory. -/
inductive OpenedStore where
  | file (m : Files.MapFile String Bytes)
  | memory (c : Contents)

namespace OpenedStore

variable {δ : Type}

/-- Acts on an opened store, whatever its kind. -/
def act {α : Type} (onFile : Action (Files.MapFile String Bytes × δ) α)
    (onMemory : Action Contents α) : Action (OpenedStore × δ) α := .ofFunction fun
  | (.file m, s) =>
    let (r, (m, s)) := onFile.outcome (m, s)
    (r, (.file m, s))
  | (.memory c, s) =>
    let (r, c) := onMemory.outcome c
    (r, (.memory c, s))

instance [Disk δ] : KeyValue (OpenedStore × δ) where
  has key := act (KeyValue.has key) (KeyValue.has key)
  get key := act (KeyValue.get key) (KeyValue.get key)
  set key value := act (KeyValue.set key value) (KeyValue.set key value)

end OpenedStore

namespace Launch

variable {δ : Type} [Disk δ]

/-- Makes sure that a directory is there. -/
def ensureDirectory (dir : String) : StateM δ (Except LaunchError Unit) := do
  match ← (Disk.isDirectory dir : Files.Attempt δ Bool).run with
  | .ok true => return .ok ()
  | .ok false => return .error (.notDirectory dir)
  | .error _ =>
    match ← (Disk.makeDirs dir : Files.Attempt δ Unit).run with
    | .ok () => return .ok ()
    | .error e => return .error (.noDirectory dir e)

/-- Opens the configured namespace. -/
def openConfigured (c : StoreSettings) : StateM δ (Except LaunchError OpenedStore) := do
  match c.backend with
  | .memory => return .ok (.memory ∅)
  | .file =>
    match ← ensureDirectory c.dataDir with
    | .error e => return .error e
    | .ok () => fun s =>
      match (Files.FileProvider.openNamespace c.nameSpace).outcome (.ofDir c.dataDir, s) with
      | (.ok m, (_, s)) => (.ok (.file m), s)
      | (.error e, (_, s)) => (.error (.store e), s)

/-- The address to listen on. -/
def address (host : String) (port : UInt16) : Except LaunchError Net.SocketAddress :=
  match Net.SocketAddress.parse? s!"{host}:{port}" with
  | some a => .ok a
  | none => .error (.badAddress host port)

/-- The path of the first file of this name in the directories. Where the name leads nowhere, or to a
directory, the next one is tried; any other failure ends the search. -/
def findFile (name : String) : List String → StateM δ (Option String)
  | [] => return none
  | dir :: dirs => do
    let path := Files.join dir name
    match ← (Disk.isDirectory path : Files.Attempt δ Bool).run with
    | .ok false => return some path
    | .ok true | .error .notFound => findFile name dirs
    | .error _ => return none

/-- The contents of the file of variables. It is looked for in the working directory first, and then
in those above it. -/
def envFile : StateM δ (Option Bytes) := do
  match ← (Disk.workingDirectory : Files.Attempt δ String).run with
  | .error _ => return none
  | .ok here =>
    match ← findFile ".env" (Files.upward (Files.components here)) with
    | none => return none
    | some path => return (← (Disk.read path : Files.Attempt δ Bytes).run).toOption

/-- The environment with the variables of the file for them, if there is one. -/
def withEnvFile (env : Environment) : StateM δ Environment := do
  match ← envFile with
  | some contents => return EnvFile.apply contents env
  | none => return env

/-- The two services. -/
inductive Service where
  | todo
  | promo
  deriving DecidableEq, Repr

def Service.port (c : Config) : Service → UInt16
  | todo => c.todoPort
  | promo => c.promoPort

/-- Everything up to listening: the configuration, the opened store and the address. -/
def prepare (service : Service) (env : Environment) :
    StateM δ (Except LaunchError (Config × OpenedStore × Net.SocketAddress)) := do
  let env ← withEnvFile env
  match ← Config.load env with
  | .error e => return .error (.config e)
  | .ok c =>
    match ← openConfigured c.store with
    | .error e => return .error e
    | .ok store =>
      match address c.host (service.port c) with
      | .error e => return .error e
      | .ok a => return .ok (c, store, a)

end Launch
end TodoPromo
