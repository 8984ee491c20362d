import TodoPromo.Files.Disk
import TodoPromo.Table

/-! # Trees of files

A file system without failures of its own: a map from places to files and directories, and a
working directory. A path is followed component by component; each one that is passed must be a
directory, and no name may be longer than 255 bytes. -/

namespace TodoPromo.Files

/-- The names on the way from the root. -/
abbrev Location := List String

inductive Node where
  | file (contents : Bytes)
  | directory
  deriving DecidableEq

/-- The root is a directory and has no entry of its own. -/
structure Tree where
  nodes : Table Location Node
  workDir : Location
  deriving DecidableEq

/-- Where a path leads: to a place, whether something is there or not. -/
structure Spot where
  location : Location
  node : Option Node
  /-- The path ends in a slash. -/
  wantsDirectory : Bool

namespace Tree

/-- The longest name, in bytes. -/
def nameLimit : Nat := 255

/-- The longest path, in bytes. -/
def pathLimit : Nat := 4095

def node? (t : Tree) (l : Location) : Option Node :=
  if l = [] then some .directory else t.nodes.get? l

/-- Follows the components of a path from a directory on. All but the last must be there. -/
def follow (t : Tree) (slash : Bool) (here : Location) :
    List String → Except IoError Spot
  | [] => .ok ⟨here, some .directory, slash⟩
  | "." :: rest => follow t slash here rest
  | ".." :: rest => follow t slash here.dropLast rest
  | name :: rest =>
    if nameLimit < name.utf8ByteSize then .error .nameTooLong else
    let next := here ++ [name]
    match rest, t.node? next with
    | [], node => .ok ⟨next, node, slash⟩
    | _ :: _, none => .error .notFound
    | _ :: _, some (.file _) => .error .notDirectory
    | _ :: _, some .directory => follow t slash next rest

/-- Where a path leads. -/
def spot (t : Tree) (path : String) : Except IoError Spot :=
  if path.toList.contains '\x00' then .error .nulInPath
  else if path.isEmpty then .error .notFound
  else if pathLimit < path.utf8ByteSize then .error .nameTooLong
  else t.follow (endsInSlash path) (if isAbsolute path then [] else t.workDir) (components path)

/-- What is at the end of a path. -/
def stat (t : Tree) (path : String) : Except IoError Node :=
  match t.spot path with
  | .error e => .error e
  | .ok s =>
    match s.node with
    | none => .error .notFound
    | some .directory => .ok .directory
    | some (.file c) => if s.wantsDirectory then .error .notDirectory else .ok (.file c)

def isDirectory (t : Tree) (path : String) : Bool :=
  match t.stat path with
  | .ok .directory => true
  | _ => false

def read (t : Tree) (path : String) : Except IoError Bytes :=
  match t.stat path with
  | .ok (.file c) => .ok c
  | .ok .directory => .error .isDirectory
  | .error e => .error e

/-- The tree with a node at a place. -/
def place (t : Tree) (l : Location) (n : Node) : Tree := { t with nodes := t.nodes.insert l n }

/-- The tree without the node at a place. -/
def without (t : Tree) (l : Location) : Tree := { t with nodes := t.nodes.erase l }

/-- Makes or replaces a file. A path that demands a directory cannot become one. -/
def write (t : Tree) (path : String) (contents : Bytes) : Except IoError Tree :=
  match t.spot path with
  | .error e => .error e
  | .ok s =>
    if s.node = some .directory || s.wantsDirectory then .error .isDirectory
    else .ok (t.place s.location (.file contents))

/-- Makes one directory. -/
def makeDir (t : Tree) (path : String) : Except IoError Tree :=
  match t.spot path with
  | .error e => .error e
  | .ok s =>
    match s.node with
    | some _ => .error .alreadyExists
    | none => .ok (t.place s.location .directory)

/-- Puts a file in the place of another file, or of nothing. -/
def rename (t : Tree) (source target : String) : Except IoError Tree :=
  match t.spot source, t.spot target with
  | .error e, _ => .error e
  | _, .error e => .error e
  | .ok s, .ok d =>
    match s.node with
    | none => .error .notFound
    | some .directory => .error .isDirectory
    | some (.file c) =>
      if s.wantsDirectory || d.wantsDirectory then .error .notDirectory
      else if d.node = some .directory then .error .isDirectory
      else if s.location = d.location then .ok t
      else .ok ((t.place d.location (.file c)).without s.location)

/-- Makes a directory, after its parents if they are missing. A directory that is there already
will do. A path has fewer ancestors than characters. -/
def makeDirsFrom (t : Tree) : Nat → String → Except IoError Unit × Tree
  | 0, _ => (.error .notFound, t)
  | fuel + 1, path =>
    if path.isEmpty then (.ok (), t) else
    match t.makeDir path with
    | .ok t => (.ok (), t)
    | .error .notFound =>
      match parent? path with
      | none => (.error .notFound, t)
      | some dir =>
        match t.makeDirsFrom fuel dir with
        | (.error e, t) => (.error e, t)
        | (.ok (), t) =>
          match t.makeDir path with
          | .ok t => (.ok (), t)
          | .error e => (if t.isDirectory path then .ok () else .error e, t)
    | .error e => (if t.isDirectory path then .ok () else .error e, t)

/-- Removes what is at the end of a path, with all that is below it. -/
def remove (t : Tree) (path : String) : Tree :=
  match t.spot path with
  | .ok s =>
    { t with nodes := Table.ofList (t.nodes.entries.filter fun e => !s.location.isPrefixOf e.1) }
  | .error _ => t

/-- All nodes below the working directory, by their path from there. -/
def listing (t : Tree) : List (String × Node) :=
  t.nodes.entries.filterMap fun (l, n) =>
    if t.workDir.isPrefixOf l && l ≠ t.workDir then
      some ("/".intercalate (l.drop t.workDir.length), n)
    else none

/-- A tree with nothing in it but a working directory. -/
def empty : Tree := ⟨Table.empty.insert ["work"] .directory, ["work"]⟩

end Tree

/-- The attempt of an operation that leaves the tree as it was if it fails. -/
def Attempt.ofUpdate (f : Tree → Except IoError Tree) : Attempt Tree Unit := ExceptT.mk fun t =>
  match f t with
  | .ok t' => (.ok (), t')
  | .error e => (.error e, t)

instance : Disk Tree where
  makeDirs path := ExceptT.mk fun t => t.makeDirsFrom (path.length + 1) path
  read path := ExceptT.mk fun t => (t.read path, t)
  write path contents := Attempt.ofUpdate (·.write path contents)
  rename source target := Attempt.ofUpdate (·.rename source target)
  isDirectory path := ExceptT.mk fun t =>
    (match t.stat path with
      | .ok .directory => .ok true
      | .ok _ => .ok false
      | .error e => .error e, t)
  workingDirectory := ExceptT.mk fun t => (.ok ("/" ++ "/".intercalate t.workDir), t)

end TodoPromo.Files
