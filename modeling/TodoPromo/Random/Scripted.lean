import TodoPromo.Binary.Format

/-! # Sources of randomness

What is drawn from a source, and a source that hands out given numbers in order, and zero when there
are no more. It does not look at the bounds, but keeps them. -/

namespace TodoPromo

/-- What the generation of sample codes needs: a state from which numbers are drawn. -/
class NumberSource (ρ : Type) where
  /-- A number below the given one. -/
  below : Nat → ρ → Nat × ρ
  /-- A number from zero up to below the given one. -/
  fraction : Single → ρ → Single × ρ

/-- Either of two sources, whichever is in use. -/
instance {ρ τ : Type} [NumberSource ρ] [NumberSource τ] : NumberSource (ρ ⊕ τ) where
  below bound
    | .inl s => let (n, s) := NumberSource.below bound s; (n, .inl s)
    | .inr s => let (n, s) := NumberSource.below bound s; (n, .inr s)
  fraction bound
    | .inl s => let (x, s) := NumberSource.fraction bound s; (x, .inl s)
    | .inr s => let (x, s) := NumberSource.fraction bound s; (x, .inr s)

/-! ### Scripted randomness -/

/-- A request for a number, with its bound. -/
inductive Draw where
  | below (bound : Nat)
  | fraction (bound : Single)
  deriving DecidableEq, Repr

/-- The numbers to come, and the requests made so far. -/
structure Scripted where
  integers : List Nat
  fractions : List Single
  draws : List Draw

instance : NumberSource Scripted where
  below bound s :=
    (s.integers.headD 0,
      { s with integers := s.integers.tail, draws := s.draws ++ [.below bound] })
  fraction bound s :=
    (s.fractions.headD Single.zero,
      { s with fractions := s.fractions.tail, draws := s.draws ++ [.fraction bound] })

end TodoPromo
