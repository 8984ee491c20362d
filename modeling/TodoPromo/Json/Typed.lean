import TodoPromo.Binary.Format
import TodoPromo.Json.Reader
import TodoPromo.Table
import TodoPromo.Time.Notation

/-! # Typed values

A type that is read from JSON text and written as such: texts, booleans, small integers, lists and
tables. A value of another kind than the expected one is refused with what it is and what was
expected; the value itself is read so far that both can be told.

The text is written compactly, without blanks. In strings the quote, the backslash and the controls
are escaped, the latter by a letter if there is one, and all other characters stand as they are. -/

namespace TodoPromo.Json

/-! ### Writing -/

/-- The bytes of ASCII characters. -/
def ascii (cs : List Char) : Bytes := cs.map fun c => UInt8.ofNat c.toNat

/-- The lower-case hexadecimal digit of a number below sixteen. -/
def hexDigit (n : Nat) : Char := Nat.digitChar n

/-- The escape or the UTF-8 bytes of a character inside a string. -/
def writeChar (c : Char) : Bytes :=
  if c = '"' then [0x5C, 0x22]
  else if c = '\\' then [0x5C, 0x5C]
  else if c = '\x08' then [0x5C, 0x62]
  else if c = '\x0c' then [0x5C, 0x66]
  else if c = '\n' then [0x5C, 0x6E]
  else if c = '\r' then [0x5C, 0x72]
  else if c = '\t' then [0x5C, 0x74]
  else if c.toNat < 0x20 then
    ascii ['\\', 'u', '0', '0', hexDigit (c.toNat / 16), hexDigit (c.toNat % 16)]
  else String.utf8EncodeChar c

/-- A string with its quotes. -/
def writeString (s : String) : Bytes := 0x22 :: s.toList.flatMap writeChar ++ [0x22]

def writeBool (b : Bool) : Bytes :=
  ascii (if b then ['t', 'r', 'u', 'e'] else ['f', 'a', 'l', 's', 'e'])

def writeNull : Bytes := ascii ['n', 'u', 'l', 'l']

def writeInt (n : Int) : Bytes := ascii (toString n).toList

/-- Numbers are positional from 10⁻⁶ up to below 10¹³. -/
def numberLayout : Decimal.Layout := ⟨-6, 12⟩

/-- The shortest decimal; there is no JSON number for an infinity or a not-a-number. -/
def writeSingle (x : Single) : Bytes :=
  if x.isFinite then ascii (numberLayout.writeScaled .single x.negative x.magnitude) else writeNull

def writeInstant (t : Time.Instant) : Bytes := 0x22 :: ascii t.write ++ [0x22]

/-- Items with commas between them. -/
def commaSeparated : List Bytes → Bytes
  | [] => []
  | [x] => x
  | x :: rest => x ++ 0x2C :: commaSeparated rest

def writeList (items : List Bytes) : Bytes := 0x5B :: commaSeparated items ++ [0x5D]

def writeObject (members : List Bytes) : Bytes := 0x7B :: commaSeparated members ++ [0x7D]

/-- A member of an object, from its key and its value, both written already. -/
def writeMember (key value : Bytes) : Bytes := key ++ 0x3A :: value

/-! ### Types -/

/-- Why the value at the front is refused where `expected` is expected. -/
def mismatch (expected : String) (bs : Bytes) : Cause :=
  let wrong (found : Found) := Cause.wrongKind found expected
  match bs with
  | [] => .endInValue
  | 0x6E :: rest => match word [0x75, 0x6C, 0x6C] rest with
    | .ok _ => wrong .null
    | .error c => c
  | 0x74 :: rest => match word [0x72, 0x75, 0x65] rest with
    | .ok _ => wrong (.boolean true)
    | .error c => c
  | 0x66 :: rest => match word [0x61, 0x6C, 0x73, 0x65] rest with
    | .ok _ => wrong (.boolean false)
    | .error c => c
  | 0x22 :: rest => match stringRest rest with
    | .ok (s, _) => wrong (.text s)
    | .error c => c
  | 0x5B :: _ => wrong .sequence
  | 0x7B :: _ => wrong .map
  | b :: rest =>
    if b = 0x2D ∨ isDigit b then
      match number (b :: rest) with
      | .ok (n, _) => wrong (.number n)
      | .error c => c
    else .expectedValue

namespace Reader

variable {α : Type}

/-- A value that begins with one of the characters that `starts` accepts. -/
def value (expected : String) (starts : UInt8 → Bool) (f : Bytes → Except Cause (α × Bytes)) :
    Reader α :=
  step fun bs =>
    match skipSpace bs with
    | [] => .error .endInValue
    | b :: rest => if starts b then f (b :: rest) else .error (mismatch expected (b :: rest))

/-- A string, where `expected` says what it should spell. -/
def textFor (expected : String) : Reader String :=
  value expected (· == 0x22) fun bs => stringRest (bs.drop 1)

def text : Reader String := textFor "a string"

def boolean : Reader Bool :=
  value "a boolean" (fun b => b == 0x74 || b == 0x66) fun bs =>
    match bs with
    | 0x74 :: rest => (true, ·) <$> word [0x72, 0x75, 0x65] rest
    | bs => (false, ·) <$> word [0x61, 0x6C, 0x73, 0x65] (bs.drop 1)

/-- Any number. -/
def numberFor (expected : String) : Reader Number :=
  value expected (fun b => b == 0x2D || isDigit b) number

/-- An integer is rounded to 32 bits at once, any other number after its rounding to 64 bits. -/
def single : Reader Single := do
  match ← numberFor "f32" with
  | .integer n => return .ofInt n
  | .float negative size => return .ofScaled negative size

/-- The integer that a number is, within bounds. -/
def integerWithin (expected : String) (least greatest : Int) (n : Number) : Reader Int :=
  match n with
  | .integer i =>
    if least ≤ i ∧ i ≤ greatest then return i
    else fail (.outOfRange (.number n) expected)
  | .float .. => fail (.wrongKind (.number n) expected)

def byte : Reader UInt8 := do
  let i ← integerWithin "u8" 0 255 (← numberFor "u8")
  return UInt8.ofNat i.toNat

def instant : Reader Time.Instant := do
  let s ← textFor "an RFC 3339 formatted date and time string"
  match Time.readInstant s.toList with
  | .ok t => return t
  | .error e => fail (.badInstant e)

/-- The opening bracket of a list. -/
def openList (expected : String) : Reader Unit :=
  value expected (· == 0x5B) fun bs => .ok ((), bs.drop 1)

/-- The opening brace of an object. -/
def openObject (expected : String) : Reader Unit :=
  value expected (· == 0x7B) fun bs => .ok ((), bs.drop 1)

/-- Whether one more item follows in a list, past the comma before it. -/
def moreItems (first : Bool) : Reader Bool :=
  step fun bs =>
    match skipSpace bs with
    | [] => .error .endInList
    | b :: rest =>
      if b = 0x5D then .ok (false, b :: rest)
      else if first then .ok (true, b :: rest)
      else if b = 0x2C then
        match skipSpace rest with
        | [] => .error .endInValue
        | b :: rest => if b = 0x5D then .error .trailingComma else .ok (true, b :: rest)
      else .error .expectedCommaOrListEnd

/-- The closing bracket, when all items that were asked for are read. -/
def closeList : Reader Unit :=
  step fun bs =>
    match skipSpace bs with
    | [] => .error .endInList
    | b :: rest =>
      if b = 0x5D then .ok ((), rest)
      else if b = 0x2C then
        match skipSpace rest with
        | 0x5D :: _ => .error .trailingComma
        | _ => .error .trailingCharacters
      else .error .trailingCharacters

/-- Whether one more member follows in an object: up to the opening quote of its key. -/
def moreMembers (first : Bool) : Reader Bool :=
  step fun bs =>
    match skipSpace bs with
    | [] => .error .endInObject
    | b :: rest =>
      if b = 0x7D then .ok (false, rest)
      else if first then
        if b = 0x22 then .ok (true, b :: rest) else .error .keyNotString
      else if b = 0x2C then
        match skipSpace rest with
        | [] => .error .endInValue
        | b :: rest =>
          if b = 0x22 then .ok (true, b :: rest)
          else if b = 0x7D then .error .trailingComma
          else .error .keyNotString
      else .error .expectedCommaOrObjectEnd

/-- A key, at whose opening quote the bytes stand. -/
def key : Reader String := step fun bs => stringRest (bs.drop 1)

/-- A key that spells an integer of 32 bits between its quotes. -/
def integerKey : Reader Int := do
  modify (List.drop 1)
  match ← get with
  | [] => fail .expectedNumericKey
  | b :: _ =>
    if !(b == 0x2D || isDigit b) then fail .expectedNumericKey
    let i ← integerWithin "i32" (-2147483648) 2147483647 (← step number)
    match ← get with
    | 0x22 :: rest => set rest; return i
    | _ => fail .expectedQuote

def colon : Reader Unit :=
  step fun bs =>
    match skipSpace bs with
    | [] => .error .endInObject
    | b :: rest => if b = 0x3A then .ok ((), rest) else .error .expectedColon

/-- A value of any kind, which is not kept. -/
def ignored : Reader Unit :=
  step fun bs => ((), ·) <$> skipValue bs

/-- The items up to the end of a list whose bracket is open, at most one per byte. -/
def items (element : Reader α) : Nat → Bool → Reader (List α)
  | 0, _ => fail .endInList
  | fuel + 1, first => do
    if ← moreItems first then
      let a ← element
      return a :: (← items element fuel false)
    else return []

def list (element : Reader α) : Reader (List α) := do
  openList "a sequence"
  let as ← items element ((← get).length + 1) true
  closeList
  return as

/-- The members up to the end of an object whose brace is open, at most one per byte. -/
def members {κ : Type} (key : Reader κ) (value : Reader α) :
    Nat → Bool → Reader (List (κ × α))
  | 0, _ => fail .endInObject
  | fuel + 1, first => do
    if ← moreMembers first then
      let k ← key
      colon
      let v ← value
      return (k, v) :: (← members key value fuel false)
    else return []

def object {κ : Type} (key : Reader κ) (value : Reader α) : Reader (List (κ × α)) := do
  openObject "a map"
  members key value ((← get).length + 1) true

/-- Nothing but white space may follow. -/
def finish : Reader Unit :=
  step fun bs => if (skipSpace bs).isEmpty then .ok ((), []) else .error .trailingCharacters

end Reader

/-! ### Types with a JSON form -/

/-- A type whose values are read from JSON and written as such. -/
class Coded (α : Type) where
  read : Reader α
  write : α → Bytes

/-- A type whose values are the keys of JSON objects. -/
class CodedKey (κ : Type) where
  readKey : Reader κ
  writeKey : κ → Bytes

instance : Coded String := ⟨Reader.text, writeString⟩
instance : Coded Bool := ⟨Reader.boolean, writeBool⟩
instance : Coded Single := ⟨Reader.single, writeSingle⟩
instance : Coded Time.Instant := ⟨Reader.instant, writeInstant⟩
instance : Coded UInt8 := ⟨Reader.byte, fun b => writeInt b.toNat⟩
instance : CodedKey String := ⟨Reader.key, writeString⟩
instance : CodedKey Int := ⟨Reader.integerKey, fun n => 0x22 :: writeInt n ++ [0x22]⟩

instance {α : Type} [Coded α] : Coded (List α) :=
  ⟨Reader.list Coded.read, fun as => writeList (as.map Coded.write)⟩

instance {κ α : Type} [DecidableEq κ] [CodedKey κ] [Coded α] : Coded (Table κ α) :=
  ⟨Table.ofList <$> Reader.object CodedKey.readKey Coded.read, fun t =>
    writeObject (t.entries.map fun e => writeMember (CodedKey.writeKey e.1) (Coded.write e.2))⟩

/-- The JSON text of a value. -/
def encode {α : Type} [Coded α] (a : α) : Bytes := Coded.write a

/-- The value that starts a text, whatever follows it. -/
def decodeFront {α : Type} [Coded α] (bs : Bytes) : Except Failure α :=
  (·.1) <$> Coded.read bs

/-- The value that a whole text spells. -/
def decode {α : Type} [Coded α] (bs : Bytes) : Except Failure α :=
  (·.1) <$> (do
    let a ← Coded.read
    Reader.finish
    return a : Reader α) bs

end TodoPromo.Json
