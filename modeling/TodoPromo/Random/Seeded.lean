import TodoPromo.Random.Scripted

/-! # Seeded randomness

A reproducible source: a ChaCha stream whose key is expanded from a seed of 64 bits. Bounded
integers come from the high half of a product, and draws that would favour some numbers are
repeated; fractions have 23 random bits.

The stream consists of 32-bit words and takes twelve rounds. A block of sixteen words comes from a
key of eight words and the number of the block; the words of the blocks, one block after another, are
the stream. -/

namespace TodoPromo.ChaCha

/-! ### The stream -/

/-- Sixteen words. -/
abbrev Block := Vector UInt32 16

/-- A key of eight words. -/
abbrev Key := Vector UInt32 8

def rotateLeft (x n : UInt32) : UInt32 := x <<< n ||| x >>> (32 - n)

/-- Mixes the four words at the given places. -/
def quarterRound (s : Block) (i j k l : Fin 16) : Block :=
  let a := s[i] + s[j]
  let d := rotateLeft (s[l] ^^^ a) 16
  let c := s[k] + d
  let b := rotateLeft (s[j] ^^^ c) 12
  let a := a + b
  let d := rotateLeft (d ^^^ a) 8
  let c := c + d
  let b := rotateLeft (b ^^^ c) 7
  (((s.set i a).set j b).set k c).set l d

/-- One round on the columns and one on the diagonals. -/
def doubleRound (s : Block) : Block :=
  let s := quarterRound s 0 4 8 12
  let s := quarterRound s 1 5 9 13
  let s := quarterRound s 2 6 10 14
  let s := quarterRound s 3 7 11 15
  let s := quarterRound s 0 5 10 15
  let s := quarterRound s 1 6 11 12
  let s := quarterRound s 2 7 8 13
  quarterRound s 3 4 9 14

/-- The words from which a block is made: four constants, the key, and the number of the block in
two words, followed by two zeros. -/
def start (key : Key) (n : UInt64) : Block :=
  #v[0x61707865, 0x3320646E, 0x79622D32, 0x6B206574,
    key[0], key[1], key[2], key[3], key[4], key[5], key[6], key[7],
    n.toUInt32, (n >>> 32).toUInt32, 0, 0]

/-- The block with this number. -/
def block (key : Key) (n : UInt64) : Block :=
  let s := start key n
  (Nat.repeat doubleRound 6 s).zipWith (· + ·) s

/-- The word of the stream with this number. -/
def word (key : Key) (i : Nat) : UInt32 :=
  (block key (UInt64.ofNat (i / 16))).get ⟨i % 16, Nat.mod_lt _ (by decide)⟩

end TodoPromo.ChaCha

namespace TodoPromo

/-! ### Draws -/

/-- A stream and how many of its words are used. -/
structure Seeded where
  key : ChaCha.Key
  used : Nat

namespace Seeded

/-- The next state in the expansion of a seed. -/
def expand (s : UInt64) : UInt64 := s * 6364136223846793005 + 11634580027462260723

/-- The key word of a state in the expansion of a seed. -/
def permute (s : UInt64) : UInt32 :=
  let x := (((s >>> 18) ^^^ s) >>> 27).toUInt32
  let n := (s >>> 59).toUInt32
  x >>> n ||| x <<< ((32 - n) % 32)

/-- The source of a seed, with no word used. -/
def ofSeed (seed : UInt64) : Seeded :=
  ⟨Vector.ofFn fun i : Fin 8 => permute (Nat.repeat expand (i + 1) seed), 0⟩

/-- The next word. -/
def next (g : Seeded) : UInt32 × Seeded := (ChaCha.word g.key g.used, { g with used := g.used + 1 })

/-- The greatest low half of a product that is accepted: one less than the greatest multiple of the
bound by a power of two below 2³². -/
def zone (bound : UInt32) : Nat :=
  bound.toNat * Nat.pow 2 (31 - bound.toNat.log2) - 1

/-- How often a draw is repeated at most. A repetition is needed in less than half of all cases. -/
def attempts : Nat := 256

/-- The high half of the first product that is accepted. -/
def drawBelow (bound : UInt32) : Nat → Seeded → UInt32 × Seeded
  | 0, g => (0, g)
  | n + 1, g =>
    let (v, g) := g.next
    let product := v.toNat * bound.toNat
    if product % UInt32.size ≤ zone bound then (UInt32.ofNat (product / UInt32.size), g)
    else drawBelow bound n g

/-- A number below the bound; there is none below zero. -/
def below? (bound : UInt32) (g : Seeded) : Option (UInt32 × Seeded) :=
  if bound = 0 then none else some (drawBelow bound attempts g)

/-- The first product of a random fraction and the bound that is rounded to less than the bound. -/
def drawFraction (bound : Single) : Nat → Seeded → Single × Seeded
  | 0, g => (Single.zero, g)
  | n + 1, g =>
    let (v, g) := g.next
    let x := (Single.ofScaled false ⟨(v >>> 9).toNat, -23⟩).mul bound
    if x.bits < bound.bits then (x, g) else drawFraction bound n g

/-- A number from zero up to below the bound, which must be finite and above zero. -/
def fraction? (bound : Single) (g : Seeded) : Option (Single × Seeded) :=
  if bound.isPositive then some (drawFraction bound attempts g) else none

end Seeded

instance : NumberSource Seeded where
  below bound g :=
    match g.below? (UInt32.ofNat bound) with
    | some (n, g) => (n.toNat, g)
    | none => (0, g)
  fraction bound g := (g.fraction? bound).getD (Single.zero, g)

end TodoPromo
