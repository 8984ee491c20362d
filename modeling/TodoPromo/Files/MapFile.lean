import TodoPromo.Files.Disk
import TodoPromo.Json.Typed
import TodoPromo.Store.Basic
import TodoPromo.Text.Quoted

/-! # Maps kept in files

A table in memory that is kept in a file as one JSON object. Every insertion writes the whole table
to a temporary file first, which then takes the place of the file; if that fails, the insertion is
undone in memory too, so that memory and file stay in step.

A provider opens stores by name. Each namespace is a file of its own in one directory, or a table of
its own in memory; opening a namespace a second time gives the same store. -/

namespace TodoPromo.Files

/-- A table and the file that it is kept in. -/
structure MapFile (κ α : Type) where
  path : String
  table : Table κ α

/-- An attempt on a disk as an action whose failures are failures of a store. -/
def Attempt.toAction {δ β : Type} (x : Attempt δ β) : Action δ β := .ofFunction fun s =>
  match x.run s with
  | (.ok b, s) => (.ok b, s)
  | (.error e, s) => (.error (.storage e.message), s)

namespace MapFile

variable {κ α δ : Type} [DecidableEq κ] [Json.CodedKey κ] [Json.Coded α] [Disk δ]

/-- The table that the contents of a file spell. An empty file is an empty table. -/
def decodeTable (path : String) (contents : Bytes) : Except ActionError (Table κ α) :=
  if contents.isEmpty then .ok ∅
  else match Json.decode contents with
    | .ok t => .ok t
    | .error e => .error (.storage (path ++ ": " ++ e.message))

/-- Makes sure that the directory of a file is there. -/
def makeParent (path : String) : Action δ Unit :=
  match parent? path with
  | some dir => Attempt.toAction (Disk.makeDirs dir)
  | none => return ()

/-- Loads the map in a file. A file that is missing is made; one that cannot be read is an error. -/
def load (path : String) : Action δ (MapFile κ α) := do
  makeParent path
  .ofFunction fun s =>
    match (Disk.read path : Attempt δ Bytes).run s with
    | (.ok contents, s) => ((decodeTable path contents).map (MapFile.mk path), s)
    | (.error .notFound, s) =>
      (Attempt.toAction do
        Disk.write path (Json.encode (∅ : Table κ α))
        return ⟨path, ∅⟩).outcome s
    | (.error e, s) => (.error (.storage e.message), s)

/-- Writes a table to a file by way of the temporary file beside it. The entries stand in their order in
the table, but no reader relies on it. -/
def save (path : String) (t : Table κ α) : Action δ Unit := Attempt.toAction do
  Disk.write (temporaryPath path) (Json.encode t)
  Disk.rename (temporaryPath path) path

/-- Gives a key a value, in memory and in the file. -/
def insert (key : κ) (value : α) : Action (MapFile κ α × δ) Unit := .ofFunction fun (m, s) =>
  let changed := m.table.insert key value
  match (save m.path changed).outcome s with
  | (.ok (), s) => (.ok (), ({ m with table := changed }, s))
  | (.error e, s) =>
    let restored := match m.table.get? key with
      | some old => changed.insert key old
      | none => changed.erase key
    (.error e, ({ m with table := restored }, s))

omit [Json.CodedKey κ] [Json.Coded α] in
/-- Undoing a failed insertion gives the table from before it. -/
theorem restored_eq (t : Table κ α) (key : κ) (value : α) :
    (match t.get? key with
      | some old => (t.insert key value).insert key old
      | none => (t.insert key value).erase key) = t := by
  split
  · rename_i h
    exact Table.insert_insert_of_get? h
  · rename_i h
    exact Table.erase_insert_of_get? h

end MapFile

/-- A map of bytes in a file is a store. -/
instance {δ : Type} [Disk δ] : KeyValue (MapFile String Bytes × δ) where
  has key := .ofFunction fun s => (.ok (s.1.table.contains key), s)
  get key := .ofFunction fun s =>
    (match s.1.table.get? key with
      | some v => .ok v
      | none => .error (keyMissing key), s)
  set key value := MapFile.insert key value

/-! ### Namespaces -/

/-- Two points in a row somewhere. -/
def hasPointPair : List Char → Bool
  | '.' :: '.' :: _ => true
  | _ :: rest => hasPointPair rest
  | [] => false

/-- Whether a name stays within the directory when it is made a file name. -/
def isNamespace (name : String) : Bool :=
  let cs := name.toList
  !cs.isEmpty && !cs.contains '/' && !cs.contains '\\' && !hasPointPair cs

/-- A directory and the namespaces opened in it. -/
structure FileProvider where
  dir : String
  opened : Table String (MapFile String Bytes)

namespace FileProvider

variable {δ : Type} [Disk δ]

def ofDir (dir : String) : FileProvider := ⟨dir, ∅⟩

/-- The file of a namespace. -/
def filePath (dir name : String) : String := join dir (name ++ ".json")

/-- Opens a namespace, unless it is open already. -/
def openNamespace (name : String) : Action (FileProvider × δ) (MapFile String Bytes) :=
  .ofFunction fun (p, s) =>
    if !isNamespace name then
      (.error (.validation ("invalid namespace " ++ Text.quote name)), (p, s))
    else match p.opened.get? name with
      | some m => (.ok m, (p, s))
      | none =>
        match (MapFile.load (filePath p.dir name) : Action δ (MapFile String Bytes)).outcome s with
        | (.ok m, s) => (.ok m, ({ p with opened := p.opened.insert name m }, s))
        | (.error e, s) => (.error e, (p, s))

/-- Acts on the store of an open namespace. -/
def within {α : Type} (name : String) (x : Action (MapFile String Bytes × δ) α)
    (s : FileProvider × δ) : Option (Except ActionError α × (FileProvider × δ)) :=
  (s.1.opened.get? name).map fun m =>
    let (r, (m, disk)) := x.outcome (m, s.2)
    (r, ({ s.1 with opened := s.1.opened.insert name m }, disk))

end FileProvider

/-- Namespaces in memory: any name will do, and none is missing. -/
abbrev MemoryProvider := Table String Contents

namespace MemoryProvider

/-- Opens a namespace, unless it is open already. -/
def openNamespace (p : MemoryProvider) (name : String) : MemoryProvider :=
  if p.contains name then p else p.insert name ∅

/-- Acts on the store of an open namespace. -/
def within {α : Type} (name : String) (x : Action Contents α) (p : MemoryProvider) :
    Option (Except ActionError α × MemoryProvider) :=
  (p.get? name).map fun c =>
    let (r, c) := x.outcome c
    (r, p.insert name c)

end MemoryProvider
end TodoPromo.Files
