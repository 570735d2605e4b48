import FlexGrid.Decimal

/-! The shortest decimal that reads back as a given double. A double stands for the interval of reals
that round to it; the decimal with the fewest digits in that interval is written, and of several such
the one nearest to the double itself. Everything is exact arithmetic on natural numbers. -/
namespace FlexGrid

/-- Which of two equally near decimals is taken. -/
inductive Tie where
  | up
  | even
deriving DecidableEq

/-- The reals that round to one positive value, as fractions over a common positive denominator. The
ends belong to the interval when it is `closed`. -/
structure Rounding where
  low : Nat
  value : Nat
  high : Nat
  denominator : Nat
  closed : Bool

namespace Rounding

/-- The largest power of ten, as an exponent, that is at most `value / denominator`. -/
def leading (r : Rounding) : Int :=
  if r.denominator ≤ r.value then
    ((Decimal.figures (r.value / r.denominator)).length : Int) - 1
  else
    -((Decimal.figures ((r.denominator - 1) / r.value)).length : Int)

/-- Whether `point / scale` lies in the interval, for a scale that multiplies the denominator by `grow`
and all numerators by `shrink`. -/
def holds (r : Rounding) (shrink point : Nat) : Bool :=
  if r.closed then r.low * shrink ≤ point && point ≤ r.high * shrink
  else r.low * shrink < point && point < r.high * shrink

/-- The decimal with `count` digits that lies in the interval and is nearest to the value, if there is
one. Only the two neighbours of the value on the grid of such decimals can be. -/
def withDigits (r : Rounding) (tie : Tie) (count : Nat) : Option Decimal :=
  let exponent := r.leading - (count : Int) + 1
  let (grow, shrink) : Nat × Nat := match exponent with
    | .ofNat n => (Nat.pow 10 n, 1)
    | .negSucc n => (1, Nat.pow 10 (n + 1))
  let step := r.denominator * grow
  let value := r.value * shrink
  let below := value / step
  let nearest :=
    if 2 * value < (2 * below + 1) * step then below
    else if (2 * below + 1) * step < 2 * value then below + 1
    else match tie with
      | .up => below + 1
      | .even => below + below % 2
  match r.holds shrink (below * step), r.holds shrink ((below + 1) * step) with
  | true, true => some ⟨nearest, exponent⟩
  | true, false => some ⟨below, exponent⟩
  | false, true => some ⟨below + 1, exponent⟩
  | false, false => none

/-- The shortest decimal in the interval, nearest to the value. Seventeen digits always suffice for a
double, so the last alternative stands for no double. -/
def shortest (r : Rounding) (tie : Tie) : Decimal :=
  match (List.range 17).findSome? fun n => r.withDigits tie (n + 1) with
  | some d => d.reduced
  | none => ⟨r.value / r.denominator, 0⟩

/-- The reals that round to `mantissa * 2 ^ exponent`. The lower neighbour of the smallest mantissa of a
binade is half as far away as the upper one; `narrow` says so. -/
def ofBinary (mantissa : Nat) (exponent : Int) (narrow : Bool) : Rounding :=
  let low := 4 * mantissa - (if narrow then 1 else 2)
  let value := 4 * mantissa
  let high := 4 * mantissa + 2
  let closed := mantissa % 2 == 0
  match exponent - 2 with
  | .ofNat n => ⟨low * Nat.pow 2 n, value * Nat.pow 2 n, high * Nat.pow 2 n, 1, closed⟩
  | .negSucc n => ⟨low, value, high, Nat.pow 2 (n + 1), closed⟩

end Rounding

/-- What is written for a double, ties between decimals broken by `tie`. -/
def Numeral.ofFloat (tie : Tie) (x : Float) : Numeral :=
  let bits := x.toBits.toNat
  let negative := decide (Nat.pow 2 63 ≤ bits)
  let biased := bits / Nat.pow 2 52 % Nat.pow 2 11
  let fraction := bits % Nat.pow 2 52
  if biased = 2047 then
    if fraction = 0 then .infinite negative else .nan
  else if biased = 0 then
    if fraction = 0 then .finite negative ⟨0, 0⟩
    else .finite negative ((Rounding.ofBinary fraction (-1074) false).shortest tie)
  else
    let narrow := fraction == 0 && biased != 1
    .finite negative
      ((Rounding.ofBinary (fraction + Nat.pow 2 52) ((biased : Int) - 1075) narrow).shortest tie)

end FlexGrid
