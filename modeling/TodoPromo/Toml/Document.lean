import TodoPromo.Toml.Lexical

/-! # TOML documents

A document is a row of statements: keys with values, and headers that say into which table the
following keys go. Its outcome is one table. -/

namespace TodoPromo.Toml

namespace Reader

/-- Items with commas between them, inside brackets that are open: newlines are free, and a comma
may follow the last item. -/
def arrayItems (element : Reader Item) : Nat → Reader (List Item)
  | 0 => failure
  | fuel + 1 => do
    freeSpace
    if (← peek) == some ']' then
      modify (List.drop 1)
      return []
    let item ← element
    freeSpace
    match ← char fun c => c == ',' || c == ']' with
    | ',' => return item :: (← arrayItems element fuel)
    | _ => return [item]

/-- A key and its value. -/
def assignment (element : Reader Item) : Reader (List String × Item) := do
  let k ← key
  exactly ['=']
  space
  let item ← element
  return (k, item)

/-- The entries of a table in braces after those so far, up to the closing brace. All of them stand
on one line, and no comma follows the last. -/
def inlineEntries (element : Reader Item) : Nat → Entries → Reader Entries
  | 0, _ => failure
  | fuel + 1, es => do
    let (k, item) ← assignment element
    space
    let es ← (es.assign true k.dropLast (k.getLastD "") item : Option Entries)
    match ← char fun c => c == ',' || c == '\x7d' with
    | ',' => inlineEntries element fuel es
    | _ => return es

/-- A value whose brackets are nested at most so deeply. -/
def value : Nat → Reader Item
  | 0 => scalar
  | depth + 1 => do
    match ← peek with
    | some '[' =>
      modify (List.drop 1)
      return .array (← arrayItems (value depth) ((← get).length + 1))
    | some '\x7b' =>
      modify (List.drop 1)
      let empty ← optional (do
        space
        exactly ['\x7d'])
      match empty with
      | some () => return .table true .explicit []
      | none =>
        let es ← inlineEntries (value depth) ((← get).length + 1) []
        return .table true .explicit es
    | _ => scalar

/-- A header: whether its brackets are double, and its key. -/
def header : Reader (Bool × List String) := do
  let double := (← get).take 2 == ['[', '[']
  exactly (if double then ['[', '['] else ['['])
  let k ← key
  exactly (if double then [']', ']'] else [']'])
  lineEnd
  return (double, k)

end Reader

/-- A document so far: the finished tables, and the table that keys go into, with its place. -/
structure Draft where
  root : Entries
  current : Entries
  path : List String
  double : Bool

namespace Draft

def start : Draft := ⟨[], [], [], false⟩

/-- Puts the current table to its place. -/
def close (d : Draft) : Option Entries :=
  match d.path.getLast? with
  | none => some d.current
  | some key =>
    (Entries.actAt false false (fun _ es =>
      if d.double then
        match es.item? key with
        | none => some ((), es.put key (.tables [d.current]))
        | some (.tables items) => some ((), es.put key (.tables (items ++ [d.current])))
        | some _ => none
      else some ((), es.put key (.table false .explicit d.current)))
      d.path.dropLast .explicit d.root).map (·.2)

/-- Begins the table of a header. A table in single brackets may have been implied before, and then
keeps what it has; one in double brackets is always new. -/
def begin (double : Bool) (path : List String) (d : Draft) : Option Draft := do
  let root ← d.close
  let key := path.getLastD ""
  let (current, root) ← Entries.actAt false false (fun _ es =>
    match double, es.item? key with
    | _, none => some (([] : Entries), es)
    | true, some (.tables _) => some ([], es)
    | false, some (.table false form sub) =>
      if form.implicit && !form.dotted then some (sub, es.without key) else none
    | _, some _ => none) path.dropLast .explicit root
  return ⟨root, current, path, double⟩

/-- Gives a key a value in the current table. -/
def assign (k : List String) (item : Item) (d : Draft) : Option Draft :=
  (d.current.assign false k.dropLast (k.getLastD "") item).map fun es => { d with current := es }

end Draft

namespace Reader

/-- One line: a comment, nothing, a header, or a key with its value. -/
def statement (d : Draft) : Reader Draft := do
  match ← peek with
  | some '#' =>
    comment
    newline <|> endOfText
    return d
  | some '[' =>
    let (double, k) ← header
    (d.begin double k : Option Draft)
  | some c =>
    if c == '\n' || c == '\r' then
      newline
      return d
    else
      let (k, item) ← assignment (value depthLimit)
      lineEnd
      (d.assign k item : Option Draft)
  | none => failure

def statements : Nat → Draft → Reader Draft
  | 0, _ => failure
  | fuel + 1, d => do
    space
    if (← get).isEmpty then return d
    statements fuel (← statement d)

end Reader

/-- The table that a document spells. A byte order mark in front does not count. -/
def parse? (s : String) : Option Entries := do
  let cs := match s.toList with
    | '\uFEFF' :: rest => rest
    | cs => cs
  let (d, _) ← Reader.statements (cs.length + 2) .start cs
  d.close

end TodoPromo.Toml
