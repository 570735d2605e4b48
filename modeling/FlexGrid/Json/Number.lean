import FlexGrid.Json.Basic
import FlexGrid.Decimal.Shortest

/-! JSON numerals: from their parts to numbers, and from doubles to text.

A numeral with a fraction or an exponent is not rounded once. Its leading digits, as many as fit 64 bits,
make a double, and that double is multiplied or divided by a power of ten, which is itself a double. -/
namespace FlexGrid.Json

/-- A numeral taken apart. Digits stand most significant first; `exponent` has its sign, negative or not,
and its digits. -/
structure NumeralParts where
  negative : Bool
  integer : List Nat
  fraction : Option (List Nat)
  exponent : Option (Bool × List Nat)

/-- The significand grows by digits for as long as it stays below `2 ^ 64`. The second number counts the
digits that were left. -/
def significand : Nat → List Nat → Nat × Nat
  | value, [] => (value, 0)
  | value, digit :: rest =>
      if value * 10 + digit < Nat.pow 2 64 then significand (value * 10 + digit) rest
      else (value, rest.length + 1)

/-- The largest exponent that a numeral may spell out. -/
def exponentLimit : Nat :=
  2147483647

/-- How many leading digits of an exponent it takes to pass the limit, if they do. -/
def excessAt (digits : List Nat) : Option Nat :=
  (List.range digits.length).find? (fun n => exponentLimit < Decimal.spelled 0 (digits.take (n + 1)))
    |>.map (· + 1)

/-- The power of ten `10 ^ n` as a double, for `n` up to 308. -/
def tenTo (n : Nat) : Float :=
  OfScientific.ofScientific 1 false n

/-- Divide by `10 ^ n`, in steps of at most `10 ^ 308`. -/
def shrink (x : Float) (n : Nat) : Float :=
  if n ≤ 308 then x / tenTo n
  else if x == 0 then x
  else shrink (x / tenTo 308) (n - 308)
termination_by n

/-- Multiply by `10 ^ exponent`. A result beyond the doubles is none. -/
def scale (x : Float) (exponent : Int) : Option Float :=
  match exponent with
  | .negSucc n => some (shrink x (n + 1))
  | .ofNat n =>
      if n ≤ 308 then
        let scaled := x * tenTo n
        if scaled.isInf then none else some scaled
      else if x == 0 then some x
      else none

/-- The number that a numeral stands for, or none if it is out of range. -/
def NumeralParts.value? (parts : NumeralParts) : Option Number :=
  let signed (x : Float) : Number := .double (if parts.negative then -x else x)
  let (integer, skipped) := significand 0 parts.integer
  match parts.fraction, parts.exponent, skipped with
  | none, none, 0 =>
      if parts.negative then
        if integer = 0 ∨ Nat.pow 2 63 < integer then some (signed (Float.ofNat integer))
        else some (.whole (-(integer : Int)))
      else some (.whole integer)
  | _, _, _ =>
      let fraction := parts.fraction.getD []
      let (digits, left) := significand integer fraction
      let start := (skipped : Int) - ((fraction.length - left : Nat) : Int)
      match parts.exponent with
      | none => (scale (Float.ofNat digits) start).map signed
      | some (negative, exponent) =>
          if (excessAt exponent).isSome then
            if digits = 0 ∨ negative then some (signed 0) else none
          else
            let power : Int := Decimal.spelled 0 exponent
            (scale (Float.ofNat digits) (if negative then start - power else start + power)).map
              signed

/-- A double as a JSON numeral. The point stands at its place for leading exponents from -5 to 15, a whole
number keeps one zero after the point, and of two equally near decimals the even one is taken. Infinities
and NaN have no numeral. -/
def doubleText (x : Float) : Option String :=
  match Numeral.ofFloat .even x with
  | .finite negative magnitude =>
      let digits :=
        if magnitude.leading < -5 ∨ 15 < magnitude.leading then magnitude.scientific
        else if magnitude.isWhole then magnitude.positional ++ ['.', '0']
        else magnitude.positional
      some (String.ofList (signText negative ++ digits))
  | .infinite _ => none
  | .nan => none

/-- A number as text. What has no numeral is written `null`. -/
def Number.text : Number → String
  | .whole value => toString value
  | .double x => (doubleText x).getD "null"

end FlexGrid.Json
