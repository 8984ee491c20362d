import TodoPromo.Json.Typed

/-! # Records

Types with named fields, described by the list of their fields. A record is written as an object
with its fields in order. It is read from an object, in which the fields may stand in any order
among others that are ignored, or from a list of the fields in order. A field may have a value for
when it is missing, and may be left out when it is written. -/

namespace TodoPromo.Json

/-- The kinds of values that fields hold. -/
inductive Kind where
  | text
  | flag
  | single
  | instant
  deriving DecidableEq

namespace Kind

/-- The values of a kind. -/
abbrev Value : Kind → Type
  | text => String
  | flag => Bool
  | single => Single
  | instant => Time.Instant

def read : (k : Kind) → Reader k.Value
  | text => Reader.text
  | flag => Reader.boolean
  | single => Reader.single
  | instant => Reader.instant

def write : (k : Kind) → k.Value → Bytes
  | text => writeString
  | flag => writeBool
  | single => writeSingle
  | instant => writeInstant

end Kind

/-- A named field. `default?` is its value when it is missing, and `omits` tells for which values
it is left out. -/
structure Field where
  name : String
  kind : Kind
  default? : Option kind.Value
  omits : kind.Value → Bool

/-- A field that is always written and must always be there. -/
def Field.required (name : String) (kind : Kind) : Field := ⟨name, kind, none, fun _ => false⟩

/-- The values of all fields, in order. -/
def Row : List Field → Type
  | [] => Unit
  | f :: rest => f.kind.Value × Row rest

/-- The values of the fields read so far. -/
def Draft : List Field → Type
  | [] => Unit
  | f :: rest => Option f.kind.Value × Draft rest

/-- A record type: what messages call it, and its fields. -/
structure Shape where
  title : String
  fields : List Field

/-- What a message expects in place of another kind of value. -/
def Shape.expected (s : Shape) : String := "struct " ++ s.title

/-- What a message expects in place of a list that is too short. -/
def Shape.expectedList (s : Shape) : String :=
  let n := s.fields.length
  s!"{s.expected} with {n} " ++ if n = 1 then "element" else "elements"

namespace Draft

def empty : (fs : List Field) → Draft fs
  | [] => ()
  | _ :: rest => (none, empty rest)

/-- Reads the value of the member called `key` into its field; the value of a member that is no
field is skipped. -/
def fill (key : String) : (fs : List Field) → Draft fs → Reader (Draft fs)
  | [], d => do
    Reader.colon
    Reader.within (.key key) Reader.ignored
    return d
  | f :: rest, (v?, d) =>
    if f.name = key then do
      if v?.isSome then Reader.fail (.duplicateField key)
      Reader.colon
      let v ← Reader.within (.key key) f.kind.read
      return (some v, d)
    else do
      let d ← fill key rest d
      return (v?, d)

/-- All fields, if those without a default were read; else the first that is missing. -/
def complete : (fs : List Field) → Draft fs → Except Cause (Row fs)
  | [], _ => .ok ()
  | f :: rest, (v?, d) =>
    match v?.or f.default? with
    | none => .error (.missingField f.name)
    | some v =>
      match complete rest d with
      | .ok row => .ok (v, row)
      | .error c => .error c

end Draft

namespace Row

/-- The members up to the end of an object whose brace is open, at most one per byte. -/
def readMembers (fs : List Field) : Nat → Bool → Draft fs → Reader (Draft fs)
  | 0, _, _ => Reader.fail .endInObject
  | fuel + 1, first, d => do
    if ← Reader.moreMembers first then
      let key ← Reader.key
      let d ← d.fill key fs
      readMembers fs fuel false d
    else return d

/-- The fields from number `i` on as the next items of a list. -/
def readItems (expected : String) : (fs : List Field) → Nat → Reader (Row fs)
  | [], _ => return ()
  | f :: rest, i => do
    if ← Reader.moreItems (i == 0) then
      let v ← Reader.within (.index i) f.kind.read
      return (v, ← readItems expected rest (i + 1))
    else match f.default? with
      | some v => return (v, ← readItems expected rest (i + 1))
      | none => Reader.fail (.tooShort i expected)

/-- A record from either of its forms. -/
def read (s : Shape) : Reader (Row s.fields) := do
  let bs ← get
  match skipSpace bs with
  | 0x5B :: rest =>
    set rest
    let row ← readItems s.expectedList s.fields 0
    Reader.closeList
    return row
  | _ =>
    Reader.openObject s.expected
    let d ← readMembers s.fields ((← get).length + 1) true (Draft.empty s.fields)
    match d.complete s.fields with
    | .ok row => return row
    | .error c => Reader.fail c

/-- The members of the fields that are not left out. -/
def members : (fs : List Field) → Row fs → List Bytes
  | [], _ => []
  | f :: rest, (v, row) =>
    if f.omits v then members rest row
    else writeMember (writeString f.name) (f.kind.write v) :: members rest row

def write (s : Shape) (row : Row s.fields) : Bytes := writeObject (members s.fields row)

end Row

/-- A type that is a record. -/
class Record (α : Type) where
  shape : Shape
  toRow : α → Row shape.fields
  ofRow : Row shape.fields → α
  ofRow_toRow : ∀ a, ofRow (toRow a) = a

instance {α : Type} [r : Record α] : Coded α :=
  ⟨r.ofRow <$> Row.read r.shape, fun a => Row.write r.shape (r.toRow a)⟩

end TodoPromo.Json
