import FlexGrid.Layout.Plan
import FlexGrid.Row

/-! Placing rows one after the other. What is placed so far is passed from row to row, so each row can be
placed knowing nothing else of the rows above it. -/
namespace FlexGrid

/-- How many rows and cells are placed. -/
structure Progress where
  rows : Nat
  cells : Nat
deriving DecidableEq

/-- What all rows of a grid share. -/
structure Canvas (α : Type) where
  columns : Nat
  rows : Nat
  gutters : Gutters α
deriving DecidableEq

/-- A drawn row that is wider than its grid. -/
structure Overflow where
  row : Nat
  width : Nat
  columns : Nat
deriving DecidableEq

def Overflow.message (o : Overflow) : String :=
  "Row " ++ toString o.row ++ " is " ++ toString o.width ++ " columns wide but the grid only has " ++
    toString o.columns

namespace Canvas

variable {α : Type} [Scalar α]

/-- The margin under the cells of a row. The last row has none. -/
def marginBottom (canvas : Canvas α) (row : Nat) : Option (Length α) :=
  if row = canvas.rows then none else canvas.gutters.down.nonzero?

/-- The blank unit-columns before a cell, as a margin. -/
def marginLeft (canvas : Canvas α) (blank : Nat) : Option (Extent α) :=
  if blank = 0 then none else some (.offset blank canvas.columns canvas.gutters.across)

/-- The margin after a cell. The last cell of a row has none. -/
def marginRight (canvas : Canvas α) (isLast : Bool) : Option (Length α) :=
  if isLast then none else canvas.gutters.across.nonzero?

/-- The cells of a drawn row that is placed as the `row`-th, after `placed` other cells. -/
def drawnCells (canvas : Canvas α) (drawn : DrawnRow) (row placed : Nat) : List (PlacedCell α) :=
  drawn.cells.mapIdx fun i cell => {
    index := placed + i + 1
    row
    width := .span cell.span canvas.columns canvas.gutters.across
    marginLeft := canvas.marginLeft (cell.blanks i)
    marginRight := canvas.marginRight (i + 1 == drawn.cells.length)
    marginBottom := canvas.marginBottom row }

/-- The cells of an even row that is placed as the `row`-th, after `placed` other cells. -/
def evenCells (canvas : Canvas α) (count row placed : Nat) : List (PlacedCell α) :=
  (List.range count).map fun i => {
    index := placed + i + 1
    row
    width := .span 1 count canvas.gutters.across
    marginLeft := none
    marginRight := canvas.marginRight (i + 1 == count)
    marginBottom := canvas.marginBottom row }

/-- Place one row below what is placed. -/
def place (canvas : Canvas α) (progress : Progress) (row : Row) :
    Except Overflow (List (PlacedCell α) × Progress) :=
  let number := progress.rows + 1
  let advance (cells : List (PlacedCell α)) :=
    (cells, (⟨number, progress.cells + cells.length⟩ : Progress))
  match row with
  | .drawn drawn =>
      if canvas.columns < drawn.width then .error ⟨number, drawn.width, canvas.columns⟩
      else .ok (advance (canvas.drawnCells drawn number progress.cells))
  | .even count _ => .ok (advance (canvas.evenCells count number progress.cells))

/-- Place rows from top to bottom. The first that does not fit ends the placement. -/
def placeAll (canvas : Canvas α) (progress : Progress) :
    List Row → Except Overflow (List (PlacedCell α) × Progress)
  | [] => .ok ([], progress)
  | row :: rest =>
      match canvas.place progress row with
      | .error overflow => .error overflow
      | .ok (cells, reached) =>
          (canvas.placeAll reached rest).map fun (others, last) => (cells ++ others, last)

end Canvas

/-- The layout of rows in a grid with a given number of unit-columns. -/
def Plan.ofRows {α : Type} [Scalar α] (rows : List Row) (columns : Nat) (gutters : Gutters α) :
    Except Overflow (Plan α) :=
  let canvas : Canvas α := ⟨columns, rows.length, gutters⟩
  (canvas.placeAll ⟨0, 0⟩ rows).map fun (cells, progress) =>
    ⟨cells, columns, progress.rows, gutters⟩

end FlexGrid
