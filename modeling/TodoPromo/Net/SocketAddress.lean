/-! # Socket addresses

Addresses with ports as texts: four numbers with points between them, or groups of hexadecimal
digits in brackets, two of which may be replaced by a double colon that stands for zeros. -/

namespace TodoPromo.Net

inductive IpAddress where
  | v4 (a b c d : UInt8)
  | v6 (groups : List UInt16)
  deriving DecidableEq, Repr

structure SocketAddress where
  ip : IpAddress
  /-- The zone of an address of the sixth version; zero if there is none. -/
  scope : UInt32
  port : UInt16
  deriving DecidableEq, Repr

/-- A reader takes its part off the front of the text, or refuses. -/
abbrev Reader := StateT (List Char) Option

namespace Reader

def char (c : Char) : Reader Unit := do
  match ← get with
  | d :: rest => if d = c then set rest else failure
  | [] => failure

/-- What a reader gives, or nothing if it refuses. -/
def optional {α : Type} (r : Reader α) : Reader (Option α) := fun cs =>
  match r cs with
  | some (a, rest) => some (some a, rest)
  | none => some (none, cs)

/-- The value of a digit in bases up to sixteen. -/
def digitValue? (base : Nat) (c : Char) : Option Nat :=
  let v := if c.isDigit then some (c.toNat - 0x30)
    else if 'a' ≤ c && c ≤ 'f' then some (c.toNat - 0x57)
    else if 'A' ≤ c && c ≤ 'F' then some (c.toNat - 0x37)
    else none
  v.filter (· < base)

/-- All digits in front, as a number below the limit. There may be a greatest number of digits, and
zeros in front may be refused. -/
def number (base limit : Nat) (width : Option Nat) (zeros : Bool) : Reader Nat := do
  let ds := (← get).takeWhile fun c => (digitValue? base c).isSome
  modify (List.drop ds.length)
  let n := ds.foldl (fun n c => base * n + (digitValue? base c).getD 0) 0
  let tooLong := match width with
    | some w => w < ds.length
    | none => false
  if ds.isEmpty || tooLong || (!zeros && ds.head? == some '0' && ds.length != 1) then failure
  if n < limit then return n else failure

def octet : Reader UInt8 := return UInt8.ofNat (← number 10 UInt8.size (some 3) false)

def ipv4 : Reader (UInt8 × UInt8 × UInt8 × UInt8) := do
  let a ← octet
  char '.'
  let b ← octet
  char '.'
  let c ← octet
  char '.'
  let d ← octet
  return (a, b, c, d)

/-- An item, with a colon in front unless it is the first. -/
def afterColon {α : Type} (first : Bool) (r : Reader α) : Reader α := do
  if !first then char ':'
  r

def join (high low : UInt8) : UInt16 := high.toUInt16 <<< 8 ||| low.toUInt16

/-- At most so many groups, and whether the last two are written as four numbers. -/
def groups (first : Bool) : Nat → Reader (List UInt16 × Bool)
  | 0 => return ([], false)
  | room + 1 => do
    let embedded ← if 0 < room then optional (afterColon first ipv4) else pure none
    match embedded with
    | some (a, b, c, d) => return ([join a b, join c d], true)
    | none =>
      match ← optional (afterColon first (number 16 UInt16.size (some 4) true)) with
      | none => return ([], false)
      | some g =>
        let (gs, v4) ← groups false room
        return (UInt16.ofNat g :: gs, v4)

/-- Eight groups, or fewer with a double colon for those that are missing. -/
def ipv6 : Reader (List UInt16) := do
  let (front, v4) ← groups true 8
  if front.length = 8 then return front
  if v4 then failure
  char ':'
  char ':'
  let (back, _) ← groups true (7 - front.length)
  return front ++ List.replicate (8 - front.length - back.length) 0 ++ back

def port : Reader UInt16 := do
  char ':'
  return UInt16.ofNat (← number 10 UInt16.size none true)

def scope : Reader UInt32 := do
  let n ← optional (do
    char '%'
    number 10 UInt32.size none true)
  return UInt32.ofNat (n.getD 0)

def socketV4 : Reader SocketAddress := do
  let (a, b, c, d) ← ipv4
  return ⟨.v4 a b c d, 0, ← port⟩

def socketV6 : Reader SocketAddress := do
  char '['
  let gs ← ipv6
  let zone ← scope
  char ']'
  return ⟨.v6 gs, zone, ← port⟩

end Reader

/-- The socket address that a text spells. -/
def SocketAddress.parse? (s : String) : Option SocketAddress :=
  match (Reader.socketV4 <|> Reader.socketV6) s.toList with
  | some (a, []) => some a
  | _ => none

end TodoPromo.Net
