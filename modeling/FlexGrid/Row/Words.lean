import FlexGrid.Row.Drawing

/-! Rows as they are held, with each count in a word of 32 bits. A count that is too large for its word is cut off, and
nothing tells of it. A sum of words that is too large is refused or cut off too; which of the two happens is settled
when the program is built, and both are stated here. -/
namespace FlexGrid

/-- A cell whose counts are kept in words. -/
structure WordCell where
  span : UInt32
  gap : UInt32
deriving DecidableEq

/-- The blank unit-columns in front of a cell. There is no count below zero. -/
def WordCell.blanks (cell : WordCell) (index : Nat) : UInt32 :=
  if index = 0 then cell.gap else if cell.gap = 0 then 0 else cell.gap - 1

/-- The counts of a cell as numbers. -/
def WordCell.counts (cell : WordCell) : Cell :=
  ⟨cell.span.toNat, cell.gap.toNat⟩

/-- A cell in words. Of each count the lowest 32 bits are kept. -/
def Cell.inWords (cell : Cell) : WordCell :=
  ⟨UInt32.ofNat cell.span, UInt32.ofNat cell.gap⟩

/-- Whether nothing is cut off the counts of a cell. -/
def Cell.Fits (cell : Cell) : Prop :=
  cell.span ≤ wordLimit ∧ cell.gap ≤ wordLimit

/-- A drawn row whose counts are kept in words. -/
structure WordRow where
  cells : List WordCell
deriving DecidableEq

namespace DrawnRow

/-- The sum of two words, if it is a word. -/
def wordSum? (a b : UInt32) : Option UInt32 :=
  if a.toNat + b.toNat < UInt32.size then some (a + b) else none

/-- The unit-columns of some cells on top of those that are counted already, if no sum on the way is too large. -/
def wordWidthFrom? (index : Nat) (sum : UInt32) : List WordCell → Option UInt32
  | [] => some sum
  | cell :: rest =>
      (wordSum? cell.span (cell.blanks index)).bind fun reach =>
      (wordSum? sum reach).bind fun next => wordWidthFrom? (index + 1) next rest

def inWords (row : DrawnRow) : WordRow :=
  ⟨row.cells.map Cell.inWords⟩

def Fits (row : DrawnRow) : Prop :=
  ∀ cell ∈ row.cells, cell.Fits

end DrawnRow

namespace WordRow

/-- The counts of a row as numbers. -/
def counts (row : WordRow) : DrawnRow :=
  ⟨row.cells.map WordCell.counts⟩

/-- The row that a text is read as. Its characters are counted first, and then the counts are put into words. -/
def ofDrawing (text : String) : WordRow :=
  (DrawnRow.ofDrawing text).inWords

/-- The blank unit-columns in front of a cell. Beyond the last cell there are none. -/
def blankBefore (row : WordRow) (index : Nat) : UInt32 :=
  match row.cells[index]? with
  | none => 0
  | some cell => cell.blanks index

/-- The unit-columns of a row, if sums that are too large are refused and there is none. -/
def width? (row : WordRow) : Option UInt32 :=
  DrawnRow.wordWidthFrom? 0 0 row.cells

/-- The unit-columns of some cells on top of those that are counted already, if sums are cut off. -/
def cutWidthFrom (index : Nat) (sum : UInt32) : List WordCell → UInt32
  | [] => sum
  | cell :: rest => cutWidthFrom (index + 1) (sum + (cell.span + cell.blanks index)) rest

/-- The unit-columns of a row, if sums that are too large are cut off. -/
def cutWidth (row : WordRow) : UInt32 :=
  cutWidthFrom 0 0 row.cells

end WordRow

namespace Row

/-- A row as it is held, its counts cut off to words. The count of an even row is a word as it is written. -/
def held : Row → Row
  | .drawn row => .drawn row.inWords.counts
  | .even count positive => .even count positive

/-- The unit-columns that a row asks of the grid, if sums that are too large are refused and there is none. -/
def wordColumns? : Row → Option UInt32
  | .drawn row => row.inWords.width?
  | .even _ _ => some 0

end Row

end FlexGrid
