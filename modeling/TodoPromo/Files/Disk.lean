import TodoPromo.Text.Characters
import TodoPromo.Text.Utf8

/-! # Disks

What the program needs of a file system: operations on paths, each of which may fail. Paths are texts:
they have components and parents, a name can be appended to them, and a temporary file that stands in
for a file while it is written has a path beside it. -/

namespace TodoPromo.Files

/-! ### Paths -/

/-- The components of a path. Empty ones do not count. -/
def components (path : String) : List String :=
  ((Text.parts '/' path.toList).filter (· ≠ [])).map String.ofList

def isAbsolute (path : String) : Bool := path.toList.head? == some '/'

/-- Whether a path demands a directory by ending in a slash. -/
def endsInSlash (path : String) : Bool := path.toList.getLast? == some '/'

/-- A path with one component more. -/
def join (dir name : String) : String :=
  if dir.isEmpty || endsInSlash dir then dir ++ name else dir ++ "/" ++ name

/-- The components that say where a path leads: a point counts only in front. -/
def significant (path : String) : List String :=
  match components path with
  | [] => []
  | c :: cs => (if c = "." && isAbsolute path then [] else [c]) ++ cs.filter (· ≠ ".")

/-- The path without its last component; it may be empty. A path without components has no
parent. -/
def parent? (path : String) : Option String :=
  match significant path with
  | [] => none
  | cs =>
    let dir := "/".intercalate cs.dropLast
    some (if isAbsolute path then "/" ++ dir else dir)

/-- A directory and all that are above it up to the root, where `names` lead from the root to the
directory. -/
def upward (names : List String) : List String :=
  (List.range (names.length + 1)).reverse.map fun k => "/" ++ "/".intercalate (names.take k)

/-- Splits a file name at its last point. A point at the very front does not count. -/
def splitExtension (name : List Char) : List Char × Option (List Char) :=
  let suffix := name.reverse.takeWhile (· != '.')
  if suffix.length = name.length then (name, none)
  else
    let stem := name.take (name.length - suffix.length - 1)
    if stem.isEmpty then (name, none) else (stem, some suffix.reverse)

/-- The name without its extension; a name that ends in a point keeps nothing of it either. -/
def stem (name : List Char) : List Char := (splitExtension name).1

/-- The name of the temporary file beside a file. The extension is cut off but for its point; what
remains loses that point, and gets the new extension. If what remains is a pair of points, it leads
to another directory and has no stem, and it is left as it is. -/
def temporaryName (name : List Char) : List Char :=
  let cut := match (splitExtension name).2 with
    | some e => name.take (name.length - e.length)
    | none => name
  if cut = ['.', '.'] then cut else stem cut ++ ".json.tmp".toList

/-- The path of the temporary file beside a file. -/
def temporaryPath (path : String) : String :=
  let cs := path.toList
  let name := (cs.reverse.takeWhile (· != '/')).reverse
  String.ofList (cs.take (cs.length - name.length) ++ temporaryName name)

/-! ### Operations -/

/-- Why an operation on files failed. -/
inductive IoError where
  | notFound
  | alreadyExists
  | notDirectory
  | isDirectory
  | nameTooLong
  /-- The path holds a NUL character. -/
  | nulInPath
  /-- The text of any other failure. -/
  | other (text : String)
  deriving DecidableEq, Repr

def IoError.message : IoError → String
  | notFound => "No such file or directory (os error 2)"
  | alreadyExists => "File exists (os error 17)"
  | notDirectory => "Not a directory (os error 20)"
  | isDirectory => "Is a directory (os error 21)"
  | nameTooLong => "File name too long (os error 36)"
  | nulInPath => "file name contained an unexpected NUL byte"
  | other text => text

/-- An operation on a disk. A failure may leave the disk changed. -/
abbrev Attempt (δ : Type) := ExceptT IoError (StateM δ)

/-- A file system, seen through its paths. -/
class Disk (δ : Type) where
  /-- Makes a directory and its parents, as far as they are missing. -/
  makeDirs : String → Attempt δ Unit
  /-- The contents of a file. -/
  read : String → Attempt δ Bytes
  /-- Makes or replaces a file. -/
  write : String → Bytes → Attempt δ Unit
  /-- Puts a file in the place of another. -/
  rename : String → String → Attempt δ Unit
  /-- Whether a path leads to a directory. -/
  isDirectory : String → Attempt δ Bool
  /-- The path of the working directory, from the root on. -/
  workingDirectory : Attempt δ String

end TodoPromo.Files
