import FlexGrid.Row

/-! Drawings of rows. In a drawing an `x` is one unit-column of a cell, a single `-` joins two of them
into one cell, and a space is a blank; a `-` that joins nothing has no meaning. -/
namespace FlexGrid

/-- The characters of drawings. -/
def Cell.isMark (c : Char) : Bool :=
  c == 'x' || c == '-' || c == ' '

namespace DrawnRow

/-- The cells of a drawing from some point on, with the spaces passed since the last cell and the joined unit-columns of
a cell that is not yet complete. The scan ends at the first character that belongs to no drawing. It counts in numbers
of any size; counts are cut off to words only when a cell is complete, which is what `WordRow.ofDrawing` adds. -/
def scan (gap span : Nat) : List Char → List Cell
  | 'x' :: '-' :: 'x' :: rest => scan gap (span + 1) ('x' :: rest)
  | 'x' :: rest => ⟨span + 1, gap⟩ :: scan 0 0 rest
  | ' ' :: rest => scan (gap + 1) 0 rest
  | '-' :: rest => scan gap 0 rest
  | _ => []

/-- The row that a drawing shows. Spaces after the last cell are not part of it. -/
def ofDrawing (text : String) : DrawnRow :=
  ⟨scan 0 0 text.toList⟩

/-- The joined unit-columns of a cell. -/
def drawSpan : Nat → List Char
  | 0 => []
  | 1 => ['x']
  | n + 2 => 'x' :: '-' :: drawSpan (n + 1)

def drawCell (cell : Cell) : List Char :=
  List.replicate cell.gap ' ' ++ drawSpan cell.span

def drawing (row : DrawnRow) : String :=
  String.ofList (row.cells.flatMap drawCell)

/-- The characters that follow `before` in a drawing, without each `-` that joins nothing. -/
def joined (before : Char) : List Char → List Char
  | [] => []
  | c :: rest =>
      if c = '-' ∧ ¬(before = 'x' ∧ rest.head? = some 'x') then joined c rest
      else c :: joined c rest

/-- A drawing with nothing in it that has no meaning: no `-` that joins nothing, and no spaces at its
end. -/
def tidy (text : String) : String :=
  String.ofList (((joined ' ' text.toList).reverse.dropWhile (· == ' ')).reverse)

end DrawnRow

end FlexGrid
