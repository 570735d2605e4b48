import FlexGrid.Length
import FlexGrid.Text.Quoted

/-! Length literals: a numeral directly followed by its unit, with white space allowed around the whole.
A numeral is digits, or digits with a point between them; it has no sign and no exponent. Zero needs no
unit. -/
namespace FlexGrid

namespace Text

/-- Property White_Space: the separators and the control characters that move the writing position. A
zero-width space is none. -/
def isBlank (c : Char) : Bool :=
  let n := c.toNat
  (0x9 ≤ n && n ≤ 0xD) || n == 0x20 || n == 0x85 || n == 0xA0 || n == 0x1680 ||
    (0x2000 ≤ n && n ≤ 0x200A) || n == 0x2028 || n == 0x2029 || n == 0x202F || n == 0x205F ||
    n == 0x3000

/-- The characters between the white space at the start and the white space at the end. -/
def trim (cs : List Char) : List Char :=
  ((cs.dropWhile isBlank).reverse.dropWhile isBlank).reverse

end Text

namespace Length

/-- A numeral as it is written: the digits before the point and those after it. -/
structure Digits where
  integer : List Char
  fraction : List Char
deriving DecidableEq

/-- The number that a numeral stands for. -/
def Digits.value {α : Type} [Scalar α] (d : Digits) : α :=
  Scalar.decimal (Decimal.digitsValue (d.integer ++ d.fraction)) d.fraction.length

/-- The longest numeral at the start of a text, and what follows it. A point that no digit follows is not
part of the numeral. -/
def splitNumeral (cs : List Char) : Option (Digits × List Char) :=
  let integer := cs.takeWhile Char.isDigit
  let rest := cs.dropWhile Char.isDigit
  if integer.isEmpty then none
  else
    match rest with
    | '.' :: tail =>
        let fraction := tail.takeWhile Char.isDigit
        if fraction.isEmpty then some (⟨integer, []⟩, rest)
        else some (⟨integer, fraction⟩, tail.dropWhile Char.isDigit)
    | _ => some (⟨integer, []⟩, rest)

/-- The unit that a text consists of. -/
def unitOf? (cs : List Char) : Option LengthUnit :=
  if cs = ['p', 'x'] then some .px
  else if cs = ['%'] then some .percent
  else if cs = ['e', 'm'] then some .em
  else if cs = ['r', 'e', 'm'] then some .rem
  else none

def ofLiteral? {α : Type} [Scalar α] (cs : List Char) : Option (Length α) := do
  let (digits, rest) ← splitNumeral cs
  let value : α := digits.value
  if rest.isEmpty then
    if Scalar.isZero value then some zero else none
  else
    (unitOf? rest).map (⟨value, ·⟩)

/-- A text that is no length literal. -/
structure BadLiteral where
  text : String
deriving DecidableEq

/-- The text is shown as it was given, with its white space. -/
def BadLiteral.message (e : BadLiteral) : String :=
  "Invalid length: " ++ Text.quoted e.text

def parse {α : Type} [Scalar α] (text : String) : Except BadLiteral (Length α) :=
  match ofLiteral? (Text.trim text.toList) with
  | some l => .ok l
  | none => .error ⟨text⟩

end Length

end FlexGrid
