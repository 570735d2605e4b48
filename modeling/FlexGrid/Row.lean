/-! Rows of a grid: one that is drawn cell by cell, or one that is divided evenly. -/
namespace FlexGrid

/-- The largest count that a word of 32 bits holds. -/
def wordLimit : Nat :=
  4294967295

/-- A cell of a drawn row: the unit-columns it covers and the spaces in front of it. These are numbers of any size; a
cell as it is held in words of 32 bits is a `WordCell`. -/
structure Cell where
  span : Nat
  gap : Nat
deriving DecidableEq

/-- The blank unit-columns in front of a cell that has `index` cells to its left. The first of the spaces
between two cells only separates them. -/
def Cell.blanks (cell : Cell) (index : Nat) : Nat :=
  if index = 0 then cell.gap else cell.gap - 1

/-- A drawn row, its cells from left to right. -/
structure DrawnRow where
  cells : List Cell
deriving DecidableEq

namespace DrawnRow

/-- The blank unit-columns in front of a cell. Beyond the last cell there are none. -/
def blankBefore (row : DrawnRow) (index : Nat) : Nat :=
  match row.cells[index]? with
  | none => 0
  | some cell => cell.blanks index

/-- The unit-columns of some cells, the first of which has `index` cells to its left. No sum is too large here; sums of
words, which can be, are those of `WordRow.width?` and `WordRow.cutWidth`. -/
def widthFrom (index : Nat) : List Cell → Nat
  | [] => 0
  | cell :: rest => cell.span + cell.blanks index + widthFrom (index + 1) rest

/-- The unit-columns of a row up to the end of its last cell. -/
def width (row : DrawnRow) : Nat :=
  widthFrom 0 row.cells

def isBlank (row : DrawnRow) : Bool :=
  row.cells.isEmpty

end DrawnRow

inductive Row where
  | drawn (row : DrawnRow)
  /-- A row divided evenly into some positive number of cells. -/
  | even (count : Nat) (positive : 0 < count)
deriving DecidableEq

namespace Row

def cellCount : Row → Nat
  | .drawn row => row.cells.length
  | .even count _ => count

/-- The unit-columns that a row asks of the grid. An even row has tracks of its own and asks none. -/
def columns : Row → Nat
  | .drawn row => row.width
  | .even _ _ => 0

/-- The unit-columns of the widest drawn row. -/
def widest (rows : List Row) : Nat :=
  rows.foldr (fun row most => max row.columns most) 0

end Row

end FlexGrid
