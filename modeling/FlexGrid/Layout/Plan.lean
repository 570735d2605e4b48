import FlexGrid.Layout.Extent

/-! The layout of a whole grid: every cell with its place, its width and its margins. -/
namespace FlexGrid

/-- The distances between neighbours: `across` between cells of a row, `down` between rows. -/
structure Gutters (α : Type) where
  across : Length α
  down : Length α
deriving DecidableEq

def Gutters.uniform {α : Type} (gutter : Length α) : Gutters α :=
  ⟨gutter, gutter⟩

/-- One cell in its place. `index` counts the cells of the grid and `row` its rows, both from one. -/
structure PlacedCell (α : Type) where
  index : Nat
  row : Nat
  width : Extent α
  marginLeft : Option (Extent α)
  marginRight : Option (Length α)
  marginBottom : Option (Length α)
deriving DecidableEq

structure Plan (α : Type) where
  cells : List (PlacedCell α)
  columns : Nat
  rows : Nat
  gutters : Gutters α
deriving DecidableEq

namespace Plan

variable {α : Type}

def empty [Scalar α] : Plan α :=
  ⟨[], 0, 0, .uniform .zero⟩

def cell? (plan : Plan α) (index : Nat) : Option (PlacedCell α) :=
  match index with
  | 0 => none
  | i + 1 => plan.cells[i]?

def rowCells (plan : Plan α) (row : Nat) : List (PlacedCell α) :=
  plan.cells.filter (·.row == row)

end Plan

end FlexGrid
