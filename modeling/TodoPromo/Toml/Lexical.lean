import TodoPromo.Binary.Format
import TodoPromo.Decimal.Shortest
import TodoPromo.Time.Instant
import TodoPromo.Toml.Item

/-! # The smallest parts of TOML

White space, comments, strings, keys, numbers, dates and times. A reader takes its part off the
front of the text, or refuses; why it refuses is not told. -/

namespace TodoPromo.Toml

abbrev Reader := StateT (List Char) Option

namespace Reader

/-- The next character, which is left where it is. -/
def peek : Reader (Option Char) := return (← get).head?

/-- One character that `p` accepts. -/
def char (p : Char → Bool) : Reader Char := do
  match ← get with
  | c :: rest => if p c then set rest; return c else failure
  | [] => failure

/-- Exactly these characters. -/
def exactly (cs : List Char) : Reader Unit := do
  let rest ← get
  if cs.isPrefixOf rest then set (rest.drop cs.length) else failure

/-- The longest run of characters that `p` accepts. -/
def span (p : Char → Bool) : Reader (List Char) := do
  let rest ← get
  set (rest.dropWhile p)
  return rest.takeWhile p

/-- What a reader gives, or nothing if it refuses. -/
def optional {α : Type} (r : Reader α) : Reader (Option α) := fun cs =>
  match r cs with
  | some (a, rest) => some (some a, rest)
  | none => some (none, cs)

/-! ### Space and comments -/

def isSpace (c : Char) : Bool := c == ' ' || c == '\t'

/-- Tabs and all characters that are no controls. -/
def isPrintable (c : Char) : Bool := c == '\t' || (0x20 ≤ c.toNat && c.toNat != 0x7F)

def space : Reader Unit := do
  let _ ← span isSpace

def newline : Reader Unit := exactly ['\n'] <|> exactly ['\r', '\n']

/-- A comment without the end of its line. -/
def comment : Reader Unit := do
  exactly ['#']
  let _ ← span isPrintable

def endOfText : Reader Unit := do
  if (← get).isEmpty then return () else failure

/-- The end of a line after a statement: space, a comment perhaps, and a newline or the end. -/
def lineEnd : Reader Unit := do
  space
  let _ ← optional comment
  newline <|> endOfText

/-- Space and whatever ends a line, in any order. Each end of a line takes a character. -/
def spaceOver (ending : Reader Unit) : Nat → Reader Unit
  | 0 => return ()
  | fuel + 1 => do
    space
    match ← optional ending with
    | some () => spaceOver ending fuel
    | none => return ()

/-- Space, newlines and comments, in any order. A comment ends in a newline. -/
def freeSpace : Reader Unit := do
  spaceOver (newline <|> do comment; newline) ((← get).length + 1)

/-! ### Strings -/

/-- The number that some hexadecimal digits spell. -/
def hexNumber (digits : Nat) : Reader Nat := do
  let ds := (← get).take digits
  if ds.length < digits || !ds.all isHexDigit then failure
  modify (List.drop digits)
  return ds.foldl (fun n d => 16 * n + hexValue d) 0
where
  isHexDigit (c : Char) : Bool :=
    c.isDigit || ('a' ≤ c && c ≤ 'f') || ('A' ≤ c && c ≤ 'F')
  hexValue (c : Char) : Nat :=
    if c.isDigit then c.toNat - 0x30 else if 'a' ≤ c then c.toNat - 0x57 else c.toNat - 0x37

/-- The character with a number, unless the number is not that of a character. -/
def character (n : Nat) : Reader Char :=
  if n.isValidChar then return Char.ofNat n else failure

/-- What stands after a backslash. -/
def escape : Reader Char := do
  match ← char fun _ => true with
  | 'b' => return '\x08'
  | 'f' => return '\x0c'
  | 'n' => return '\n'
  | 'r' => return '\r'
  | 't' => return '\t'
  | '"' => return '"'
  | '\\' => return '\\'
  | 'u' => character (← hexNumber 4)
  | 'U' => character (← hexNumber 8)
  | _ => failure

/-- A string with escapes, up to its closing quote. -/
def basicRest : Nat → Reader (List Char)
  | 0 => failure
  | fuel + 1 => do
    let c ← char isPrintable
    if c = '"' then return []
    else if c = '\\' then do
      let e ← escape
      return e :: (← basicRest fuel)
    else return c :: (← basicRest fuel)

/-- A string without escapes, up to its closing quote. -/
def literalRest : Reader (List Char) := do
  let cs ← span fun c => isPrintable c && c != '\''
  exactly ['\'']
  return cs

/-- Three or more quotes end a string of several lines; one or two of them may belong to it. -/
def closingQuotes (q : Char) : Reader (List Char) := do
  let quotes := (← get).takeWhile (· == q)
  let inside := min 2 (quotes.length - 3)
  if quotes.length < 3 then failure
  modify (List.drop (inside + 3))
  return List.replicate inside q

/-- A backslash at the end of a line skips all space up to the next other character. -/
def lineContinuation : Reader Unit := do
  exactly ['\\']
  space
  newline
  spaceOver newline ((← get).length + 1)

/-- A string of several lines between quotes of this kind, up to its closing quotes. -/
def multilineRest (q : Char) : Nat → Reader (List Char)
  | 0 => failure
  | fuel + 1 => do
    match ← optional (closingQuotes q) with
    | some quotes => return quotes
    | none =>
      match ← optional newline with
      | some () => return '\n' :: (← multilineRest q fuel)
      | none =>
        match ← optional (if q = '"' then lineContinuation else failure) with
        | some () => multilineRest q fuel
        | none =>
          let c ← char isPrintable
          if c = '\\' && q = '"' then
            let e ← escape
            return e :: (← multilineRest q fuel)
          else return c :: (← multilineRest q fuel)

/-- A string of one line. -/
def lineString : Reader (List Char) := do
  let fuel := (← get).length + 1
  (do exactly ['"']; basicRest fuel) <|> (do exactly ['\'']; literalRest)

/-- A string of several lines. A newline right at its beginning is not part of it. -/
def multilineString (q : Char) : Reader (List Char) := do
  exactly [q, q, q]
  let _ ← optional newline
  multilineRest q ((← get).length + 1)

/-- A string of any kind. Three quotes always begin a string of several lines. -/
def string : Reader String := do
  let front := (← get).take 3
  let cs ← if front == ['"', '"', '"'] then multilineString '"'
    else if front == ['\'', '\'', '\''] then multilineString '\''
    else lineString
  return String.ofList cs

/-! ### Keys -/

def isBare (c : Char) : Bool := c.isAlphanum || c == '_' || c == '-'

def simpleKey : Reader String := do
  let cs ← lineString <|> (do
    let cs ← span isBare
    if cs.isEmpty then failure
    return cs)
  return String.ofList cs

/-- The parts of a key with points, with space around each. -/
def keyParts : Nat → Reader (List String)
  | 0 => failure
  | fuel + 1 => do
    space
    let k ← simpleKey
    space
    if (← peek) == some '.' then
      modify (List.drop 1)
      return k :: (← keyParts fuel)
    else return [k]

/-- How many parts a key may have, and how deeply values may be nested. -/
def depthLimit : Nat := 79

def key : Reader (List String) := keyParts depthLimit

/-! ### Numbers -/

/-- Digits with single underscores between them. -/
def digitsFrom (p : Char → Bool) : Nat → Reader (List Char)
  | 0 => failure
  | fuel + 1 => do
    let d ← char p
    let more ← optional (do
      let _ ← optional (exactly ['_'])
      digitsFrom p fuel)
    match more, ← peek with
    | some ds, _ => return d :: ds
    | none, some '_' => failure
    | none, _ => return [d]

def digits (p : Char → Bool) : Reader (List Char) := do digitsFrom p ((← get).length + 1)

def sign : Reader Bool := do
  match ← peek with
  | some '-' => modify (List.drop 1); return true
  | some '+' => modify (List.drop 1); return false
  | _ => return false

/-- The digits of a whole number, which has no zero in front. -/
def wholeDigits : Reader (List Char) := do
  if (← peek) == some '0' then
    modify (List.drop 1)
    return ['0']
  else digits Char.isDigit

def valueIn (base : Nat) (ds : List Char) : Nat :=
  ds.foldl (fun n d => base * n + hexNumber.hexValue d) 0

/-- A number in another base, after its marker. -/
def basedNumber (marker : Char) (base : Nat) : Reader Nat := do
  exactly ['0', marker]
  let ds ← digits fun c => hexNumber.isHexDigit c && hexNumber.hexValue c < base
  return valueIn base ds

/-- An integer of 64 bits. -/
def integer : Reader Item := do
  let based ← optional (basedNumber 'x' 16 <|> basedNumber 'o' 8 <|> basedNumber 'b' 2)
  match based with
  | some n => if n < 0x8000000000000000 then return .integer n else failure
  | none =>
    let negative ← sign
    let n : Int := valueIn 10 (← wholeDigits)
    let n := if negative then -n else n
    if -0x8000000000000000 ≤ n ∧ n < 0x8000000000000000 then return .integer n else failure

/-- Whether `m · 10 ^ e` is too large for a number of 64 bits. -/
def overflows (m : Nat) (e : Int) : Bool :=
  let lead := (Decimal.digitCount m : Int) + e
  if m = 0 || lead < 300 then false
  else if 320 < lead then true
  else (Binary.Format.double.nearest (m * Nat.pow 10 e.toNat) (Nat.pow 10 (-e).toNat)).isNone

def exponent : Reader Int := do
  let _ ← char fun c => c == 'e' || c == 'E'
  let negative ← sign
  let n : Int := valueIn 10 (← digits Char.isDigit)
  return if negative then -n else n

/-- A number with a fraction or an exponent. Positive numbers must not be too large. -/
def decimal : Reader Item := do
  let negative ← sign
  let whole ← wholeDigits
  let fraction ← optional (do
    exactly ['.']
    digits Char.isDigit)
  let e ← optional exponent
  if fraction.isNone && e.isNone then failure
  let ds := fraction.getD []
  if !negative && overflows (valueIn 10 (whole ++ ds)) (e.getD 0 - ds.length) then failure
  return .float

/-- The numbers that have names. -/
def namedFloat : Reader Item := do
  let _ ← sign
  exactly ['i', 'n', 'f'] <|> exactly ['n', 'a', 'n']
  return .float

/-! ### Dates and times -/

/-- A number of so many digits, within bounds. -/
def fixed (width least greatest : Nat) : Reader Nat := do
  let ds := (← get).take width
  if ds.length < width || !ds.all Char.isDigit then failure
  modify (List.drop width)
  let n := valueIn 10 ds
  if least ≤ n && n ≤ greatest then return n else failure

def date : Reader Unit := do
  let y ← fixed 4 0 9999
  exactly ['-']
  let m ← fixed 2 1 12
  exactly ['-']
  let d ← fixed 2 1 31
  if Time.daysInMonth y m < d then failure

def time : Reader Unit := do
  let _ ← fixed 2 0 23
  exactly [':']
  let _ ← fixed 2 0 59
  exactly [':']
  let _ ← fixed 2 0 60
  let _ ← optional (do
    exactly ['.']
    let ds ← span Char.isDigit
    if ds.isEmpty then failure)

def offset : Reader Unit := do
  let c ← char fun c => c == 'Z' || c == 'z' || c == '+' || c == '-'
  if c == '+' || c == '-' then
    let _ ← fixed 2 0 23
    exactly [':']
    let _ ← fixed 2 0 59

/-- A date, a date with a time and perhaps an offset, or a time. -/
def moment : Reader Item := do
  (do
    date
    let _ ← optional (do
      let _ ← char fun c => c == 'T' || c == 't' || c == ' '
      time
      optional offset)) <|> time
  return .moment

def boolean : Reader Item :=
  (do exactly "true".toList; return .boolean true) <|>
  (do exactly "false".toList; return .boolean false)

/-- A value without parts. -/
def scalar : Reader Item := do
  match ← peek with
  | some c =>
    if c == '"' || c == '\'' then return .text (← string)
    else if c == 't' || c == 'f' then boolean
    else moment <|> decimal <|> namedFloat <|> integer
  | none => failure

end Reader
end TodoPromo.Toml
