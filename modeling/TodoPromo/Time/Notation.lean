import TodoPromo.Text.Characters
import TodoPromo.Time.Instant

/-! # Instants as texts

A tolerant reading of the internet date and time format: white space may stand before each part,
fields may have one digit less, the `T` may be a blank, and the offset from UTC may be `Z`, the
word UTC, or a sign with hours and minutes. A field out of its own range is noticed at once; that
the date does not exist, or that the offset is a day or more, only after the whole text is read.

Written is the form `YYYY-MM-DDTHH:MM:SS`, a fraction of three, six or nine digits if there is one,
the fewest that are exact, and `Z`. A year outside 0…9999 has a sign. A leap second is written as
second 60. -/

namespace TodoPromo.Time

/-! ### Reading -/

/-- Why a text is not an instant. -/
inductive ReadError where
  /-- A field, or the whole, is beyond its range. -/
  | outOfRange
  /-- The text ends too early. -/
  | premature
  /-- A character that cannot stand at its place. -/
  | invalid
  /-- Something follows the instant. -/
  | trailing
  /-- The offset moves the instant beyond the calendar. -/
  | impossible
  deriving DecidableEq, Repr

def ReadError.message : ReadError → String
  | outOfRange => "input is out of range"
  | premature => "premature end of input"
  | invalid => "input contains invalid characters"
  | trailing => "trailing input"
  | impossible => "no possible date and time matching input"

/-- A reader takes its part off the front of the text. -/
abbrev Reader := StateT (List Char) (Except ReadError)

namespace Reader

/-- Refuses with an error of its own when the text is at its end. -/
def fail {α : Type} : Reader α := do
  if (← get).isEmpty then throw .premature else throw .invalid

def skipBlanks : Reader Unit := modify Text.trimStart

/-- One of the characters that `p` accepts. -/
def char (p : Char → Bool) : Reader Char := do
  match ← get with
  | c :: rest => if p c then set rest; return c else throw .invalid
  | [] => throw .premature

/-- The value of a row of digits. -/
def value (ds : List Char) : Nat := ds.foldl (fun n d => 10 * n + (d.toNat - '0'.toNat)) 0

/-- At least one digit; at most `width` if there is a width. -/
def digits (width : Option Nat) : Reader (List Char) := do
  let cs ← get
  let run := cs.takeWhile Char.isDigit
  let ds := match width with
    | some w => run.take w
    | none => run
  if ds.isEmpty then fail
  set (cs.drop ds.length)
  return ds

/-- A number after white space, within bounds. -/
def field (width least greatest : Nat) : Reader Nat := do
  skipBlanks
  let n := value (← digits (some width))
  if least ≤ n && n ≤ greatest then return n else throw .outOfRange

/-- A separator after white space. -/
def separator (c : Char) : Reader Unit := do
  skipBlanks
  let _ ← char (· == c)

/-- Four digits at most, or any number of them after a sign; 32 bits hold every year. -/
def year : Reader Int := do
  skipBlanks
  let n : Int ← match ← get with
    | '-' :: rest => do
      set rest
      pure (-(value (← digits none) : Int))
    | '+' :: rest => do
      set rest
      pure (value (← digits none) : Int)
    | _ => do pure (value (← digits (some 4)) : Int)
  if -2147483648 ≤ n && n ≤ 2147483647 then return n else throw .outOfRange

def date : Reader Date := do
  let y ← year
  separator '-'
  let m ← field 2 1 12
  separator '-'
  let d ← field 2 1 31
  return ⟨y, m, d⟩

/-- What stands between a date and a time. -/
def dateTimeSeparator : Reader Unit := do
  let _ ← char fun c => c == 'T' || c == 't' || Text.isBlank c

/-- A point and up to nine digits that count, in nanoseconds. -/
def fraction : Reader Nat := do
  match ← get with
  | '.' :: rest => do
    set rest
    let ds ← digits none
    let counted := ds.take 9
    return value counted * Nat.pow 10 (9 - counted.length)
  | _ => return 0

/-- Hour, minute and second, and the fraction. -/
def time : Reader (Nat × Nat × Nat × Nat) := do
  let h ← field 2 0 23
  separator ':'
  let m ← field 2 0 59
  separator ':'
  let s ← field 2 0 60
  let f ← fraction
  return (h, m, s, f)

/-- Exactly two digits. A single character counts as an early end only if it is one byte long. -/
def twoDigits : Reader (Nat × Nat) := do
  match ← get with
  | [] => throw .premature
  | [c] => if c.utf8Size = 1 then throw .premature else throw .invalid
  | a :: b :: rest =>
    if a.isDigit && b.isDigit then
      set rest
      return (a.toNat - '0'.toNat, b.toNat - '0'.toNat)
    else throw .invalid

/-- The minutes by which a local time is ahead of UTC. -/
def offset : Reader Int := do
  skipBlanks
  match ← get with
  | [] => throw .premature
  | c :: rest =>
    if c == 'Z' || c == 'z' then set rest; return 0
    let word := (c :: rest).take 3
    if word.map Char.toUpper == ['U', 'T', 'C'] then set (rest.drop 2); return 0
    if c != '+' && c != '-' && c != '\u2212' then throw .invalid
    set rest
    let h ← twoDigits
    modify fun cs => cs.dropWhile fun c => c == ':' || Text.isBlank c
    let m ← twoDigits
    if 6 ≤ m.1 then throw .outOfRange
    let minutes : Int := (60 * (10 * h.1 + h.2) + (10 * m.1 + m.2) : Nat)
    return if c == '+' then minutes else -minutes

end Reader

/-- The instant of a date and a time of day in seconds, `minutes` ahead of UTC. -/
def Instant.ofLocal? (d : Date) (second nano : Nat) (minutes : Int) : Option Instant :=
  let total := d.toDay * 86400 + second - minutes * 60
  if h : (firstDay ≤ total / 86400 ∧ total / 86400 ≤ lastDay)
      ∧ nano < 2000000000 ∧ (1000000000 ≤ nano → (total % 86400).toNat % 60 = 59) then
    some ⟨total / 86400, (total % 86400).toNat, nano, h.1.1, h.1.2, by omega, h.2.1, h.2.2⟩
  else none

/-- Reads an instant and whatever follows it. -/
def readInstant (cs : List Char) : Except ReadError Instant := do
  let ((d, (h, m, s, f), minutes), rest) ← StateT.run (do
    let d ← Reader.date
    Reader.dateTimeSeparator
    let t ← Reader.time
    let minutes ← Reader.offset
    return (d, t, minutes)) cs
  if !rest.all Text.isBlank then throw .trailing
  let inCalendar := d.exists? && firstDay ≤ d.toDay && d.toDay ≤ lastDay
  if !inCalendar || 1440 ≤ minutes.natAbs then throw .outOfRange
  let (second, nano) := if s = 60 then (59, f + 1000000000) else (s, f)
  match Instant.ofLocal? d (3600 * h + 60 * m + second) nano minutes with
  | some t => return t
  | none => throw .impossible

/-! ### Writing -/

/-- A number in base ten, filled with zeros in front to the given width. -/
def padded (width n : Nat) : List Char :=
  let ds := Nat.toDigits 10 n
  List.replicate (width - ds.length) '0' ++ ds

def writeYear (y : Int) : List Char :=
  if 0 ≤ y && y ≤ 9999 then padded 4 y.toNat
  else (if y < 0 then '-' else '+') :: padded 4 y.natAbs

/-- The fraction of a second, left out when it is zero. -/
def writeFraction (nano : Nat) : List Char :=
  if nano = 0 then []
  else if nano % 1000000 = 0 then '.' :: padded 3 (nano / 1000000)
  else if nano % 1000 = 0 then '.' :: padded 6 (nano / 1000)
  else '.' :: padded 9 nano

def Instant.write (t : Instant) : List Char :=
  let d := Date.ofDay t.day
  let leap := t.nano / 1000000000
  writeYear d.year ++ '-' :: padded 2 d.month ++ '-' :: padded 2 d.day
    ++ 'T' :: padded 2 (t.second / 3600) ++ ':' :: padded 2 (t.second / 60 % 60)
    ++ ':' :: padded 2 (t.second % 60 + leap) ++ writeFraction (t.nano % 1000000000) ++ ['Z']

end TodoPromo.Time
