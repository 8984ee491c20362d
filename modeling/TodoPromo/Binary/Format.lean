/-! # Binary floating-point formats

A floating-point number is an integer times a power of two. A format bounds the integer and the
power, and `Format.nearest` rounds a quotient of natural numbers to the closest number of the
format, in exact integer arithmetic; of two equally close ones it takes the even integer.

Numbers of single precision have one sign bit, eight bits of exponent and 23 of fraction. Discounts
are such numbers, and they are compared bit for bit. -/

namespace TodoPromo.Binary

/-- The number `mantissa · 2 ^ exponent`. -/
structure Scaled where
  mantissa : Nat
  exponent : Int
  deriving DecidableEq, Repr

/-- A format holds `m · 2 ^ q` for `m < 2 ^ precision` and `least ≤ q ≤ greatest`. -/
structure Format where
  precision : Nat
  least : Int
  greatest : Int

/-- Numbers of 32 bits. -/
def Format.single : Format := ⟨24, -149, 104⟩

/-- Numbers of 64 bits. -/
def Format.double : Format := ⟨53, -1074, 971⟩

/-- The quotient `num / den` divided by `2 ^ q`, again as a quotient. -/
def divPow (num den : Nat) (q : Int) : Nat × Nat :=
  if 0 ≤ q then (num, den * Nat.pow 2 q.toNat) else (num * Nat.pow 2 (-q).toNat, den)

/-- The integer closest to `num / den`; halfway, the even one. -/
def roundDiv (num den : Nat) : Nat :=
  let n := num / den
  let twice := 2 * (num % den)
  if twice < den || (twice == den && n % 2 == 0) then n else n + 1

namespace Format

/-- The power of two that spaces the numbers of the format around `num / den`. -/
def spacing (F : Format) (num den : Nat) : Int :=
  let q := max F.least ((num.log2 : Int) - den.log2 - F.precision)
  let s := divPow num den q
  if s.1 / s.2 < Nat.pow 2 F.precision then q else q + 1

/-- The number of the format that is closest to `num / den`, for `den ≠ 0`; none when that is
beyond the greatest number. -/
def nearest (F : Format) (num den : Nat) : Option Scaled :=
  if num = 0 then some ⟨0, F.least⟩ else
  let q := F.spacing num den
  let s := divPow num den q
  let m := roundDiv s.1 s.2
  let d : Scaled := if m < Nat.pow 2 F.precision then ⟨m, q⟩ else ⟨m / 2, q + 1⟩
  if d.exponent ≤ F.greatest then some d else none

end Format

namespace Scaled

/-- A scaled integer as a quotient of natural numbers. -/
def toQuotient (d : Scaled) : Nat × Nat := divPow d.mantissa 1 (-d.exponent)

/-- The product, rounded to the format. -/
def mul (F : Format) (a b : Scaled) : Option Scaled :=
  let p : Scaled := ⟨a.mantissa * b.mantissa, a.exponent + b.exponent⟩
  F.nearest p.toQuotient.1 p.toQuotient.2

/-- The quotient, rounded to the format, for a divisor other than zero. -/
def div (F : Format) (a b : Scaled) : Option Scaled :=
  let s := divPow a.mantissa b.mantissa (b.exponent - a.exponent)
  F.nearest s.1 s.2

/-- The same number rounded to the format. -/
def round (F : Format) (d : Scaled) : Option Scaled :=
  F.nearest d.toQuotient.1 d.toQuotient.2

end Scaled
end TodoPromo.Binary

namespace TodoPromo

/-! ### Numbers of 32 bits -/

/-- A single-precision number, infinities and the not-a-numbers included. -/
structure Single where
  bits : UInt32
  deriving DecidableEq, Repr, Inhabited

namespace Single

open Binary

def negative (x : Single) : Bool := 0x80000000 ≤ x.bits

/-- The bits without the sign. -/
def magnitudeBits (x : Single) : Nat := x.bits.toNat % 0x80000000

/-- Neither infinite nor a not-a-number. -/
def isFinite (x : Single) : Bool := x.magnitudeBits < 0x7F800000

/-- The absolute value of a finite number. -/
def magnitude (x : Single) : Scaled :=
  let e : Nat := x.magnitudeBits / 0x800000
  let f := x.magnitudeBits % 0x800000
  if e = 0 then ⟨f, -149⟩ else ⟨f + 0x800000, (e : Int) - 150⟩

/-- The bits of a number of the format without its sign. -/
def bitsOf (d : Scaled) : Nat :=
  if d.mantissa < 0x800000 then d.mantissa
  else (d.exponent + 150).toNat * 0x800000 + (d.mantissa - 0x800000)

/-- The number with this sign and absolute value, infinite when there is none. -/
def ofMagnitude (negative : Bool) (size : Option Scaled) : Single :=
  let sign : Nat := if negative then 0x80000000 else 0
  match size with
  | some d => ⟨UInt32.ofNat (sign + bitsOf d)⟩
  | none => ⟨UInt32.ofNat (sign + 0x7F800000)⟩

/-- The closest number of 32 bits to a scaled integer. -/
def ofScaled (negative : Bool) (d : Scaled) : Single := ofMagnitude negative (d.round .single)

/-- The closest number of 32 bits to an integer. -/
def ofInt (n : Int) : Single := ofMagnitude (n < 0) (Format.single.nearest n.natAbs 1)

/-- The number of 32 bits closest to the number of 64 bits that is closest to a quotient. -/
def ofQuotient (negative : Bool) (num den : Nat) : Single :=
  match Format.double.nearest num den with
  | some d => ofScaled negative d
  | none => ofMagnitude negative none

def zero : Single := ⟨0⟩
def nan : Single := ⟨0x7FC00000⟩
def infinity (negative : Bool) : Single := ofMagnitude negative none

/-- Whether a number is greater than zero and finite. -/
def isPositive (x : Single) : Bool := !x.negative && x.isFinite && x.magnitudeBits != 0

/-- The product of two finite numbers that are not negative. -/
def mul (x y : Single) : Single := ofMagnitude false (x.magnitude.mul .single y.magnitude)

end Single
end TodoPromo
