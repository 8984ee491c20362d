import TodoPromo.Config.Variables
import TodoPromo.Text.Characters
import TodoPromo.Text.WordTable

/-! # Variables from a file

A file of assignments that sets variables which are not set yet. A value may be quoted, run over
several lines, and refer to other variables. At the first line that is wrong reading stops; what
was assigned before stays. -/

namespace TodoPromo.EnvFile

/-! ### Lines -/

/-- What the quotes and backslashes so far leave open at a place in a line. -/
inductive Scan where
  | plain
  /-- Right after a blank, where a comment may begin. -/
  | blank
  | escaped
  | strong
  | strongEscaped
  | weak
  | weakEscaped
  deriving DecidableEq

/-- What a character outside of quotes opens. -/
def Scan.open (c : Char) : Scan :=
  if c = '\\' then .escaped else if c = '"' then .weak else if c = '\'' then .strong else .plain

def Scan.step : Scan → Char → Scan
  | blank, c => Scan.open c
  | escaped, _ => plain
  | plain, c =>
    if Text.isBlank c && c != '\n' && c != '\r' then blank else Scan.open c
  | weak, c => if c = '\\' then weakEscaped else if c = '"' then plain else weak
  | weakEscaped, _ => weak
  | strong, c => if c = '\\' then strongEscaped else if c = '\'' then plain else strong
  | strongEscaped, _ => strong

/-- A line up to a comment, what it leaves open, and whether there is a comment. -/
def scanLine : Scan → List Char → List Char × Scan × Bool
  | s, [] => ([], s, false)
  | s, c :: cs =>
    if s = .blank && c = '#' then ([], s, true)
    else
      let (rest, s, comment) := scanLine (s.step c) cs
      (c :: rest, s, comment)

/-- The lines of a file, each with its newline. -/
def splitLines (collected : Bytes) : Bytes → List Bytes
  | [] => if collected.isEmpty then [] else [collected.reverse]
  | b :: bs =>
    if b = 0x0A then (b :: collected).reverse :: splitLines [] bs
    else splitLines (b :: collected) bs

/-- A line without its newline. -/
def chomp (cs : List Char) : List Char :=
  match cs.reverse with
  | '\n' :: '\r' :: rest => rest.reverse
  | '\n' :: rest => rest.reverse
  | _ => cs

/-- Joins lines as long as quotes are open, after those joined so far. A `none` stands where a line
is wrong: it is no text, or the file ends within it. -/
def logicalLines (front : List Char) (s : Scan) : List Bytes → List (Option (List Char))
  | [] => if s = .plain then [] else [none]
  | line :: lines =>
    match Text.decode? line with
    | none => [none]
    | some text =>
      let cs := text.toList
      if (Text.trimStart (front ++ cs)).head? = some '#' then
        some [] :: logicalLines [] .plain lines
      else
        let (kept, s, comment) := scanLine s cs
        if comment then some (front ++ kept) :: logicalLines [] .plain lines
        else if s = .plain then some (chomp (front ++ kept)) :: logicalLines [] .plain lines
        else logicalLines (front ++ kept) s lines

/-! ### Values -/

/-- The name of a variable that is being read inside a value. -/
inductive Reference where
  | none
  /-- After a dollar sign. -/
  | open (name : List Char)
  /-- Between braces. -/
  | braced (name : List Char)

/-- How far the reading of a value has come. -/
structure Progress where
  out : List Char
  strong : Bool
  weak : Bool
  escaped : Bool
  /-- Only space or a comment may follow. -/
  ended : Bool
  reference : Reference

def isWord (c : Char) : Bool := Text.wordRanges.has c

/-- What a backslash and a character stand for. -/
def escape? : Char → Option Char
  | 'n' => some '\n'
  | c => if "\\'\"$ ".toList.contains c then some c else none

/-- The values that references stand for. -/
abbrev Lookup := List Char → List Char

/-- Takes a character of a value, where only space and comments end it: `none` if it is wrong. -/
def Progress.step (value : Lookup) (p : Progress) (c : Char) : Option Progress :=
  if p.escaped then (escape? c).map fun e => { p with out := p.out ++ [e], escaped := false }
  else if p.strong then
    some (if c = '\'' then { p with strong := false } else { p with out := p.out ++ [c] })
  else match p.reference with
    | .open name =>
      if isWord c then some { p with reference := .open (name ++ [c]) }
      else if c = '\x7b' && name.isEmpty then some { p with reference := .braced [] }
      else
        let out := p.out ++ value name
        some (if c = '$' then { p with out := out, reference := .open [] }
          else { p with out := out ++ [c], reference := .none })
    | .braced name =>
      some (if c = '\x7d' then { p with out := p.out ++ value name, reference := .none }
        else { p with reference := .braced (name ++ [c]) })
    | .none =>
      some (if c = '$' then { p with reference := .open [] }
        else if p.weak then
          if c = '"' then { p with weak := false }
          else if c = '\\' then { p with escaped := true }
          else { p with out := p.out ++ [c] }
        else if c = '\'' then { p with strong := true }
        else if c = '"' then { p with weak := true }
        else if c = '\\' then { p with escaped := true }
        else if c = ' ' || c = '\t' then { p with ended := true }
        else { p with out := p.out ++ [c] })

/-- The value that ends here: `none` if something is still open. -/
def Progress.finish (value : Lookup) (p : Progress) : Option (List Char) :=
  if p.strong || p.weak then none
  else match p.reference with
    | .none => some p.out
    | .open name => some (p.out ++ value name)
    | .braced _ => none

/-- The rest of a value. -/
def valueFrom (value : Lookup) (p : Progress) : List Char → Option (List Char)
  | [] => p.finish value
  | c :: cs =>
    if p.ended then
      if c = ' ' || c = '\t' then valueFrom value p cs
      else if c = '#' then p.finish value
      else none
    else match p.step value c with
      | some p => valueFrom value p cs
      | none => none

/-! ### Assignments -/

def isKeyStart (c : Char) : Bool := c.isAlpha || c == '_'

def isKeyChar (c : Char) : Bool := c.isAlphanum || c == '_' || c == '.'

/-- A key and what follows it. -/
def keyOf (cs : List Char) : Option (List Char × List Char) :=
  match cs with
  | c :: _ => if isKeyStart c then some (cs.takeWhile isKeyChar, cs.dropWhile isKeyChar) else none
  | [] => none

/-- What follows an equals sign. -/
def afterEquals : List Char → Option (List Char)
  | '=' :: cs => some cs
  | _ => none

/-- The key of a line, and what stands after the equals sign. The word `export` may stand in
front of a key, or be one. -/
def splitAssignment (cs : List Char) : Option (List Char × List Char) := do
  let (key, rest) ← keyOf cs
  let rest := Text.trimStart rest
  if key = "export".toList then
    match afterEquals rest with
    | some value => return (key, value)
    | none =>
      let (key, rest) ← keyOf rest
      return (key, ← afterEquals (Text.trimStart rest))
  else return (key, ← afterEquals rest)

/-- The assignment of a line; `some none` if it has none, and `none` if it is wrong. -/
def assignment? (value : Lookup) (line : List Char) : Option (Option (String × String)) :=
  let cs := Text.trimStart (Text.trimEnd line)
  if cs.isEmpty || cs.head? = some '#' then some none
  else do
    let (key, rest) ← splitAssignment cs
    let rest := Text.trimStart rest
    let out ← if rest.isEmpty || rest.head? = some '#' then some []
      else valueFrom value ⟨[], false, false, false, false, .none⟩ rest
    return some (String.ofList key, String.ofList out)

/-- Carries out the assignments of lines. A reference stands for a variable of the environment, or
for what the file assigned to it. -/
def assignAll (env : Environment) (assigned : Table String String) :
    List (Option (List Char)) → Environment
  | [] => env
  | none :: _ => env
  | some line :: lines =>
    let value (name : List Char) : List Char :=
      ((env.text? (String.ofList name)).getD
        ((assigned.get? (String.ofList name)).getD "")).toList
    match assignment? value line with
    | none => env
    | some none => assignAll env assigned lines
    | some (some (key, v)) =>
      let env := if (env.text? key).isSome then env else env.insert key (Text.encode v)
      assignAll env (assigned.insert key v) lines

/-- The contents of a file without a byte order mark. -/
def withoutMark : Bytes → Bytes
  | 0xEF :: 0xBB :: 0xBF :: rest => rest
  | bs => bs

/-- The environment with the variables that a file sets. -/
def apply (contents : Bytes) (env : Environment) : Environment :=
  assignAll env ∅ (logicalLines [] .plain (splitLines [] (withoutMark contents)))

end TodoPromo.EnvFile
