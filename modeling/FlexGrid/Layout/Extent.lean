import FlexGrid.Layout.Calc

/-! How wide cells and the blanks before them are. A grid of `n` tracks with a gutter between neighbours
gives each track the same width; what covers several tracks also covers the gutters between them. -/
namespace FlexGrid

/-- A horizontal extent in a grid of `tracks` tracks that are `gutter` apart. -/
inductive Extent (α : Type) where
  /-- From the start of one track to the end of the last of `count` tracks. -/
  | span (count tracks : Nat) (gutter : Length α)
  /-- From the start of one track to the start of the track `count` further. -/
  | offset (count tracks : Nat) (gutter : Length α)
deriving DecidableEq

namespace Extent

variable {α : Type} [Scalar α]

/-- The width of one track in a container, for a gutter in pixels. -/
def trackWidth (container : α) (tracks : Nat) (gutter : α) : α :=
  (container - (Scalar.natural tracks - Scalar.natural 1) * gutter) / Scalar.natural tracks

/-- The extent in pixels in a container of a given width, if the gutter has a width in pixels there. -/
def pixels? (e : Extent α) (container : α) : Option α :=
  match e with
  | .span count tracks gutter =>
      (gutter.pixels? container).map fun g =>
        Scalar.natural count * (trackWidth container tracks g + g) - g
  | .offset count tracks gutter =>
      (gutter.pixels? container).map fun g =>
        Scalar.natural count * (trackWidth container tracks g + g)

/-- The width of one track as an expression. Gutters that come to nothing are left out, for a bare zero
cannot be subtracted in a stylesheet. -/
def trackCalc (tracks : Nat) (gutter : Length α) : Calc α :=
  let gutters := gutter.scaled (Scalar.natural (tracks - 1))
  let free : Calc α :=
    if gutters.isZero then .container else .difference .container (.length gutters)
  if tracks = 1 then free else .quotient free (.number tracks)

/-- The width of some tracks and of the gutters they absorb. -/
def tracksCalc (count tracks : Nat) (gutter absorbed : Length α) : Calc α :=
  let track := trackCalc tracks gutter
  let all := if count = 1 then track else .product track (.number count)
  if absorbed.isZero then all else .sum all (.length absorbed)

/-- The extent as an expression, or none if it is the whole width of the container. -/
def expression? (e : Extent α) : Option (Calc α) :=
  match e with
  | .span count tracks gutter =>
      if tracks ≤ count then none
      else
        some (tracksCalc count tracks gutter
          (gutter.scaled (Scalar.natural count - Scalar.natural 1)))
  | .offset count tracks gutter =>
      some (tracksCalc count tracks gutter (gutter.scaled (Scalar.natural count)))

def css (e : Extent α) : String :=
  match e.expression? with
  | none => "100%"
  | some expression => "calc(" ++ expression.css ++ ")"

end Extent

end FlexGrid
