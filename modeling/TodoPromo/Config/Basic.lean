import TodoPromo.Files.Disk
import TodoPromo.Files.MapFile
import TodoPromo.Text.Characters

/-! # Configurations

What the two services are configured with, the defaults, and the conditions under which a
configuration is used. A blank host and a missing or zero number of threads are replaced by the
defaults before the conditions are checked. -/

namespace TodoPromo

/-- Where a store keeps its contents. -/
inductive Backend where
  | file
  | memory
  deriving DecidableEq, Repr

structure StoreSettings where
  backend : Backend
  dataDir : String
  nameSpace : String
  deriving DecidableEq, Repr

structure Config where
  host : String
  workerThreads : Option Nat
  todoPort : UInt16
  promoPort : UInt16
  seedCount : Nat
  store : StoreSettings
  deriving DecidableEq, Repr

/-- Why the value of a variable is refused. -/
inductive ValueError where
  | emptyNumber
  | invalidDigit
  | tooLarge
  /-- The name is in small letters. -/
  | unknownBackend (name : String)
  deriving DecidableEq, Repr

def ValueError.message : ValueError → String
  | emptyNumber => "cannot parse integer from empty string"
  | invalidDigit => "invalid digit found in string"
  | tooLarge => "number too large to fit in target type"
  | unknownBackend name => s!"unknown store backend {Text.quote name}, expected file or memory"

/-- Why there is no configuration. -/
inductive ConfigError where
  | badVariable (name value : String) (reason : ValueError)
  | unreadableFile (path : String) (e : Files.IoError)
  | notUnicode (path : String)
  /-- The file is no configuration; the details are not told here. -/
  | malformed (path : String)
  | zeroPort
  | zeroSeedCount
  | blankNamespace
  | separatorInNamespace
  | blankDataDir
  deriving DecidableEq, Repr

def ConfigError.message : ConfigError → String
  | badVariable name value reason => s!"{name}={Text.quote value} 无效: {reason.message}"
  | unreadableFile path e => s!"{path}: {e.message}"
  | notUnicode path => path ++ ": stream did not contain valid UTF-8"
  | malformed path => path ++ ": <toml>"
  | zeroPort => "todo.port / promo.port 必须在 1..=65535 范围内"
  | zeroSeedCount => "promo.seed_count 必须 >= 1"
  | blankNamespace => "store.namespace 不能为空"
  | separatorInNamespace => "store.namespace 不能包含路径分隔符"
  | blankDataDir => "store.data_dir 为空；file 后端需要数据目录"

namespace StoreSettings

def default : StoreSettings := ⟨.file, "data", "default"⟩

/-- The namespace becomes a file name, and files need a directory. -/
def validate (c : StoreSettings) : Except ConfigError Unit :=
  let name := c.nameSpace.toList
  if Text.allBlank c.nameSpace then .error .blankNamespace
  else if name.contains '/' || name.contains '\\' || Files.hasPointPair name then
    .error .separatorInNamespace
  else if c.backend = .file && Text.allBlank c.dataDir then .error .blankDataDir
  else .ok ()

end StoreSettings

namespace Config

def loopback : String := "127.0.0.1"

def defaultThreads : Nat := 4

def default : Config := ⟨loopback, some defaultThreads, 8081, 8082, 50, .default⟩

/-- The configuration with defaults for a blank host and for threads that are missing or none. -/
def normalize (c : Config) : Config :=
  { c with
    host := if Text.allBlank c.host then loopback else c.host
    workerThreads := match c.workerThreads with
      | none | some 0 => some defaultThreads
      | some n => some n }

def validate (c : Config) : Except ConfigError Unit :=
  if c.todoPort = 0 || c.promoPort = 0 then .error .zeroPort
  else if c.seedCount = 0 then .error .zeroSeedCount
  else c.store.validate

/-- The normalized configuration, if it can be used. -/
def checked (c : Config) : Except ConfigError Config :=
  match c.normalize.validate with
  | .ok () => .ok c.normalize
  | .error e => .error e

end Config
end TodoPromo
