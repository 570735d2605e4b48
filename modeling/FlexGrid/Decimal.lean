/-! Decimal numbers and the two ways of writing one: with a point at its place, or with one leading
digit and an exponent. How many digits a number gets is decided elsewhere; here none is added that the
notation does not need. -/
namespace FlexGrid

/-- The number `digits * 10 ^ exponent`. -/
structure Decimal where
  digits : Nat
  exponent : Int
deriving DecidableEq

namespace Decimal

/-- Drop trailing zeros, at most `fuel` of them, and raise the exponent by one for each. -/
def trim : Nat → Decimal → Decimal
  | 0, d => d
  | fuel + 1, d =>
      if d.digits % 10 = 0 then trim fuel ⟨d.digits / 10, d.exponent + 1⟩ else d

/-- The same number without trailing zeros; zero is `0 * 10 ^ 0`. -/
def reduced (d : Decimal) : Decimal :=
  if d.digits = 0 then ⟨0, 0⟩ else trim d.digits.log2 d

/-- The digits of `n`, most significant first. Zero has the one digit `0`. -/
def figures (n : Nat) : List Char :=
  Nat.toDigits 10 n

/-- The value of a decimal digit. -/
def digitValue (c : Char) : Nat :=
  c.toNat - '0'.toNat

/-- The number that digits spell, most significant first, behind others that have spelled `value`. -/
def spelled (value : Nat) (digits : List Nat) : Nat :=
  digits.foldl (fun value digit => value * 10 + digit) value

/-- The number that a sequence of decimal digits spells. -/
def digitsValue (digits : List Char) : Nat :=
  spelled 0 (digits.map digitValue)

/-- The digits of `n` in a field of at least `width` characters, filled with zeros on the left. -/
def padded (width n : Nat) : List Char :=
  List.replicate (width - (figures n).length) '0' ++ figures n

def leading (d : Decimal) : Int :=
  d.exponent + (figures d.digits).length - 1

/-- Whether the number is whole as it stands, that is, needs no decimal point. -/
def isWhole (d : Decimal) : Bool :=
  0 ≤ d.exponent

/-- The number with its point in place: `1250`, `12.5`, `0.00125`. -/
def positional (d : Decimal) : List Char :=
  match d.exponent with
  | .ofNat zeros => figures (d.digits * Nat.pow 10 zeros)
  | .negSucc n =>
      figures (d.digits / Nat.pow 10 (n + 1)) ++
        '.' :: padded (n + 1) (d.digits % Nat.pow 10 (n + 1))

/-- The number with one digit before the point and a signed exponent: `1.25e+16`, `1e-7`. -/
def scientific (d : Decimal) : List Char :=
  let mantissa := match figures d.digits with
    | [] => []
    | [first] => [first]
    | first :: rest => first :: '.' :: rest
  let power := match d.leading with
    | .ofNat n => '+' :: figures n
    | .negSucc n => '-' :: figures (n + 1)
  mantissa ++ 'e' :: power

end Decimal

/-- What can be written for a number: a decimal with its sign, an infinity, or no number at all. -/
inductive Numeral where
  | finite (negative : Bool) (magnitude : Decimal)
  | infinite (negative : Bool)
  | nan
deriving DecidableEq

/-- The sign that is written before a magnitude. -/
def signText (negative : Bool) : List Char :=
  if negative then ['-'] else []

/-- A numeral in a stylesheet: never an exponent, and no point in a whole number. -/
def Numeral.plain : Numeral → String
  | .finite negative magnitude => String.ofList (signText negative ++ magnitude.positional)
  | .infinite negative => String.ofList (signText negative ++ ['i', 'n', 'f'])
  | .nan => "NaN"

end FlexGrid
