import FlexGrid.Length

/-! Arithmetic on lengths as a stylesheet writes it. The sizes of cells are kept as expressions up to their
text, so that the text can be compared with what it computes. -/
namespace FlexGrid

/-- An arithmetic expression. Plain numbers are whole, for they count tracks. -/
inductive Calc (α : Type) where
  | length (l : Length α)
  | number (n : Nat)
  | sum (a b : Calc α)
  | difference (a b : Calc α)
  | product (a b : Calc α)
  | quotient (a b : Calc α)
deriving DecidableEq

namespace Calc

/-- The whole width of the container, to which percentages refer. -/
def container {α : Type} [Scalar α] : Calc α :=
  .length ⟨Scalar.natural 100, .percent⟩

/-- Whether an expression is a sum, which binds less than a product or a quotient. -/
def isSum {α : Type} : Calc α → Bool
  | .sum _ _ => true
  | _ => false

/-- Whether an expression may come apart when it is the right operand of a product or a quotient. -/
def isOpen {α : Type} : Calc α → Bool
  | .sum _ _ => true
  | .product _ _ => true
  | .quotient _ _ => true
  | _ => false

/-- A text in parentheses if it needs them. -/
def bracketed (needed : Bool) (text : String) : String :=
  if needed then "(" ++ text ++ ")" else text

/-- An expression between the parentheses of `calc()`. Operations of one rank are done from left to right,
so a left operand needs parentheses only if it binds less, and a right operand also if it binds alike. A
difference always has parentheses of its own. -/
def css {α : Type} [Scalar α] : Calc α → String
  | .length l => l.css
  | .number n => toString n
  | .sum a b => a.css ++ " + " ++ bracketed b.isSum b.css
  | .difference a b => bracketed true (a.css ++ " - " ++ bracketed b.isSum b.css)
  | .product a b => bracketed a.isSum a.css ++ " * " ++ bracketed b.isOpen b.css
  | .quotient a b => bracketed a.isSum a.css ++ " / " ++ bracketed b.isOpen b.css

/-- The number that an expression stands for when one unit of each kind has a given size. -/
def value {α : Type} [Scalar α] (size : LengthUnit → α) : Calc α → α
  | .length l => l.value * size l.unit
  | .number n => Scalar.natural n
  | .sum a b => a.value size + b.value size
  | .difference a b => a.value size - b.value size
  | .product a b => a.value size * b.value size
  | .quotient a b => a.value size / b.value size

inductive Dimension where
  | number
  | length
deriving DecidableEq

/-- What an expression stands for. A stylesheet adds and subtracts only like quantities, multiplies by
numbers and divides by numbers; any other expression stands for nothing. -/
def dimension? {α : Type} : Calc α → Option Dimension
  | .length _ => some .length
  | .number _ => some .number
  | .sum a b => like a.dimension? b.dimension?
  | .difference a b => like a.dimension? b.dimension?
  | .product a b =>
      match a.dimension?, b.dimension? with
      | some .number, d => d
      | d, some .number => d
      | _, _ => none
  | .quotient a b =>
      match b.dimension? with
      | some .number => a.dimension?
      | _ => none
where
  /-- The dimension of both, if they have the same one. -/
  like (a b : Option Dimension) : Option Dimension :=
    if a = b then a else none

end Calc

end FlexGrid
