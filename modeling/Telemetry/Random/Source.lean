import Telemetry.Scalar

/-!
# Random numbers

Random scalars drawn from a source of 64-bit words.  A source is any type whose
values yield a word and a successor.
-/

namespace Telemetry

class RandomSource (σ : Type) where
  next : σ → UInt64 × σ
  /-- So many words in a row tell whether any word of the source is acceptable. -/
  patience : σ → Nat

namespace RandomSource

variable {σ : Type} [RandomSource σ] {α : Type} [Scalar α]

/-- A scalar in `[0, 1)`, a multiple of the reciprocal of the power of two that
has `bits` bits. -/
def fraction (bits : Nat) (word : UInt64) : α :=
  Scalar.ofNat (word.toNat / Nat.pow 2 (64 - bits)) / Scalar.ofNat (Nat.pow 2 bits)

/-- A scalar in `[0, 1)` with 53 random bits. -/
def unit (source : σ) : α × σ :=
  let (word, source) := next source
  (fraction 53 word, source)

/-- The first of at most `attempts` draws whose scalar lies below `high`.  If
none does, `low` takes their place. -/
def firstBelow (low high : α) (attempts : Nat) (source : σ) : α × σ :=
  match attempts with
  | 0 => (low, source)
  | attempts + 1 =>
      let (word, source) := next source
      let value := fraction 52 word * (high - low) + low
      if Scalar.less value high then (value, source)
      else firstBelow low high attempts source

/-- A scalar between two bounds.  Rounding can lift a draw up to the upper
bound; such a draw is repeated. -/
def between (low high : α) (source : σ) : α × σ :=
  firstBelow low high (patience source) source

/-- A normally distributed scalar with mean zero, from two draws: one for its
distance from the mean and one for its phase. -/
def normal (variance : α) (source : σ) : α × σ :=
  let (first, source) := between (1.0 / Scalar.ofNat (Nat.pow 2 52)) 1.0 source
  let (second, source) := unit source
  (Scalar.sqrt (-2.0 * Scalar.log first) * Scalar.cos (2.0 * Scalar.pi * second) *
    Scalar.sqrt variance, source)

end RandomSource

/-- Words that are drawn in turn, over and over. -/
structure Cycle where
  /-- The words still to be drawn before the cycle starts again. -/
  pending : List UInt64
  first : UInt64
  others : List UInt64
deriving Repr, DecidableEq

namespace Cycle

/-- The cycle of some words, from its beginning. -/
def ofWords (first : UInt64) (others : List UInt64) : Cycle where
  pending := first :: others
  first := first
  others := others

instance : RandomSource Cycle where
  next cycle :=
    match cycle.pending with
    | word :: pending => (word, { cycle with pending := pending })
    | [] => (cycle.first, { cycle with pending := cycle.others })
  patience cycle := cycle.others.length + 1

end Cycle

end Telemetry
