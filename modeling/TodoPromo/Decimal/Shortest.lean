import TodoPromo.Binary.Format

/-! # Shortest decimals

The decimal with the fewest digits that a floating-point number can be read back from. The numbers
that round to `m · 2 ^ q` form an interval, with its ends when `m` is even. On the grid of
decimals with a given number of digits only the two neighbours of the value can be the closest, so
the first grid with a neighbour inside the interval gives the digits; of two such neighbours the
closer one is taken, and the even one when they are equally close.

A decimal is written positionally while its first digit stands within given bounds, with a fraction
part in any case, else with an exponent whose sign is always shown. -/

namespace TodoPromo.Decimal

open Binary

/-- The number `digits · 10 ^ exponent`. -/
structure Scientific where
  digits : Nat
  exponent : Int
  deriving DecidableEq, Repr

/-- How many decimal digits a number has; zero has none. -/
def digitCount (n : Nat) : Nat := if n = 0 then 0 else (Nat.toDigits 10 n).length

/-- The exponent of the first digit of `num / den`, for a quotient above zero. -/
def leadingExponent (num den : Nat) : Int :=
  if den ≤ num then digitCount (num / den) - 1
  else -(digitCount ((den + num - 1) / num - 1))

/-- The interval of numbers that round to a given one: its value and its ends over one
denominator, and whether the ends belong to it. -/
structure Interval where
  low : Nat
  value : Nat
  high : Nat
  den : Nat
  closed : Bool

/-- The interval of the numbers that a format rounds to `d`, for a `d` other than zero. The gap
below a power of two is half as wide as the gap above it. -/
def Interval.around (F : Format) (d : Scaled) : Interval :=
  let narrow := d.mantissa == Nat.pow 2 (F.precision - 1) && F.least < d.exponent
  let unit := divPow 1 1 (2 - d.exponent)
  let low := 4 * d.mantissa - if narrow then 1 else 2
  ⟨low * unit.1, 4 * d.mantissa * unit.1, (4 * d.mantissa + 2) * unit.1, unit.2,
    d.mantissa % 2 == 0⟩

namespace Interval

/-- The factors that compare a multiple of `10 ^ k` with a multiple of `1 / den`. -/
def factors (i : Interval) (k : Int) : Nat × Nat :=
  if 0 ≤ k then (Nat.pow 10 k.toNat * i.den, 1) else (i.den, Nat.pow 10 (-k).toNat)

/-- Whether `c · 10 ^ k` lies in the interval. -/
def contains (i : Interval) (c : Nat) (k : Int) : Bool :=
  let f := i.factors k
  if i.closed then i.low * f.2 ≤ c * f.1 && c * f.1 ≤ i.high * f.2
  else i.low * f.2 < c * f.1 && c * f.1 < i.high * f.2

/-- The neighbour of the value among the multiples of `10 ^ k` that lies in the interval and is
closest to the value. -/
def neighbour? (i : Interval) (k : Int) : Option Nat :=
  let f := i.factors k
  let c := i.value * f.2 / f.1
  match i.contains c k, i.contains (c + 1) k with
  | true, true =>
    let twice := 2 * (i.value * f.2 - c * f.1)
    some (if twice < f.1 || (twice == f.1 && c % 2 == 0) then c else c + 1)
  | true, false => some c
  | false, true => some (c + 1)
  | false, false => none

end Interval

/-- The digits without zeros at the end. -/
def dropZeros : Nat → Scientific → Scientific
  | 0, s => s
  | fuel + 1, s =>
    if s.digits % 10 = 0 then dropZeros fuel ⟨s.digits / 10, s.exponent + 1⟩ else s

/-- Tries the grids from `10 ^ k` on, each ten times as fine as the one before. -/
def shortestFrom (i : Interval) : Nat → Int → Scientific
  | 0, k => ⟨i.value * (i.factors k).2 / (i.factors k).1, k⟩
  | fuel + 1, k =>
    match i.neighbour? k with
    | some c => ⟨c, k⟩
    | none => shortestFrom i fuel (k - 1)

/-- The shortest decimal that reads back as `d`, for a `d` of the format other than zero. Seventeen
digits always suffice. -/
def shortest (F : Format) (d : Scaled) : Scientific :=
  let i := Interval.around F d
  dropZeros 20 (shortestFrom i 17 (leadingExponent i.value i.den))

/-! ### Layout -/

/-- The exponents of the first digit between which a number is written positionally. -/
structure Layout where
  least : Int
  greatest : Int

/-- The digits of a number in base ten. -/
def digitsOf (n : Nat) : List Char := Nat.toDigits 10 n

def zeros (n : Nat) : List Char := List.replicate n '0'

/-- An exponent with its sign. -/
def exponentText (e : Int) : List Char :=
  (if e < 0 then '-' else '+') :: digitsOf e.natAbs

/-- A decimal above zero. -/
def Layout.write (l : Layout) (s : Scientific) : List Char :=
  let ds := digitsOf s.digits
  let lead := s.exponent + (ds.length - 1 : Nat)
  if l.least ≤ lead && lead ≤ l.greatest then
    if lead < 0 then
      '0' :: '.' :: zeros (-lead - 1).toNat ++ ds
    else
      let whole := lead.toNat + 1
      let padded := ds ++ zeros (whole - ds.length)
      let fraction := padded.drop whole
      padded.take whole ++ '.' :: (if fraction.isEmpty then ['0'] else fraction)
  else
    match ds with
    | [d] => d :: 'e' :: exponentText lead
    | d :: rest => d :: '.' :: rest ++ 'e' :: exponentText lead
    | [] => []

/-- The shortest decimal of a number of the format, with its sign. -/
def Layout.writeScaled (l : Layout) (F : Binary.Format) (negative : Bool)
    (d : Binary.Scaled) : List Char :=
  let size := if d.mantissa = 0 then ['0', '.', '0'] else l.write (shortest F d)
  if negative then '-' :: size else size

end TodoPromo.Decimal
