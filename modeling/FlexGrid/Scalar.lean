import FlexGrid.Decimal.Shortest

/-! The arithmetic that lengths are computed in. Sizes and margins are written once, over any `Scalar`:
with `Float` they are what a browser and the command line work with, and with `Rat` they are the same
formulas in exact arithmetic. -/
namespace FlexGrid

/-- Numbers with the operations that lengths need. No law is assumed of them here: doubles satisfy few. -/
class Scalar (α : Type) extends Add α, Sub α, Mul α, Div α where
  /-- A natural number. -/
  natural : Nat → α
  /-- The number `digits / 10 ^ places`, rounded once if it must be. -/
  decimal (digits places : Nat) : α
  /-- Whether a number compares equal to zero. -/
  isZero : α → Bool
  /-- The nearest whole number; a half goes away from zero. -/
  round : α → α
  /-- What is written for a number. -/
  numeral : α → Numeral

/-- Doubles. Of two equally near decimals the larger is written. -/
instance : Scalar Float where
  natural := Float.ofNat
  decimal digits places := OfScientific.ofScientific digits true places
  isZero x := x == 0
  round := Float.round
  numeral := Numeral.ofFloat .up

namespace Exact

/-- The nearest whole number; a half goes away from zero. -/
def round (q : Rat) : Rat :=
  if q < 0 then -((-q + 1 / 2).floor : Rat) else ((q + 1 / 2).floor : Rat)

/-- How many decimal places a fraction over `denominator` needs. One with no finite decimal gets as many
places as its denominator has binary digits after the first. -/
def places (denominator : Nat) : Nat :=
  ((List.range (denominator.log2 + 1)).find? fun p => Nat.pow 10 p % denominator == 0).getD
    denominator.log2

/-- The decimal of a fraction, cut off where `places` says. A finite decimal is complete there. -/
def numeral (q : Rat) : Numeral :=
  let p := places q.den
  .finite (q.num < 0) ⟨q.num.natAbs * Nat.pow 10 p / q.den, -(p : Int)⟩

end Exact

/-- Exact fractions. -/
instance : Scalar Rat where
  natural n := (n : Rat)
  decimal digits places := mkRat digits (Nat.pow 10 places)
  isZero q := q == 0
  round := Exact.round
  numeral := Exact.numeral

end FlexGrid
