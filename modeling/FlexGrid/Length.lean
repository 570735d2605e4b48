import FlexGrid.Scalar

/-! Lengths as a stylesheet writes them: a number and a unit. -/
namespace FlexGrid

/-- The units a length can have. -/
inductive LengthUnit where
  | px
  | percent
  | em
  | rem
deriving DecidableEq

def LengthUnit.suffix : LengthUnit → String
  | .px => "px"
  | .percent => "%"
  | .em => "em"
  | .rem => "rem"

/-- A number of units. -/
structure Length (α : Type) where
  value : α
  unit : LengthUnit
deriving DecidableEq

namespace Length

variable {α : Type} [Scalar α]

/-- No length, in pixels. -/
def zero : Length α :=
  ⟨Scalar.natural 0, .px⟩

/-- Whether the number compares equal to zero, whatever the unit. -/
def isZero (l : Length α) : Bool :=
  Scalar.isZero l.value

/-- The length unless it is zero. -/
def nonzero? (l : Length α) : Option (Length α) :=
  if l.isZero then none else some l

def scaled (l : Length α) (factor : α) : Length α :=
  ⟨l.value * factor, l.unit⟩

/-- The length in pixels inside a container of a given width. Units that depend on a font have none. -/
def pixels? (l : Length α) (container : α) : Option α :=
  match l.unit with
  | .px => some l.value
  | .percent => some (container * l.value / Scalar.natural 100)
  | .em => none
  | .rem => none

/-- The number rounded to four decimal places. -/
def rounded (l : Length α) : α :=
  Scalar.round (l.value * Scalar.natural 10000) / Scalar.natural 10000

/-- A length in a stylesheet. Rounding to four places hides the noise of multiplied fractions, and a
length that it rounds to zero is written without a unit. -/
def css (l : Length α) : String :=
  if Scalar.isZero l.rounded then "0"
  else (Scalar.numeral l.rounded).plain ++ l.unit.suffix

end Length

end FlexGrid
