import FlexGrid.Row.Words
import FlexGrid.Text.Quoted

/-! Grid specs as they are written, and the rows they stand for. -/
namespace FlexGrid

/-- A row as it is written: a drawing, or a number of even cells. -/
inductive Entry where
  | drawing (text : String)
  | distribute (count : Nat)
deriving DecidableEq

/-- A grid as it is written, from top to bottom. -/
structure Spec where
  entries : List Entry
deriving DecidableEq

/-- What can be wrong with an entry. Rows and columns count from one, and columns count characters. -/
inductive Entry.Fault where
  | foreignCharacter (row column : Nat) (found : Char)
  | noCells (row : Nat)
deriving DecidableEq

/-- The words for a count that is not positive, around the text of what was found. -/
def Entry.countMessage (row : Nat) (found : String) : String :=
  "Malformed row " ++ toString row ++ ": distribute count must be a positive integer, found " ++ found

def Entry.Fault.message : Entry.Fault → String
  | .foreignCharacter row column found =>
      "Invalid character " ++ Text.quotedChar found ++ " in row " ++ toString row ++ ", column " ++
        toString column ++ ": rows may only contain 'x', '-' and spaces"
  | .noCells row => Entry.countMessage row "0"

namespace Entry

/-- The row that an entry stands for, as the `row`-th of its grid. -/
def toRow (row : Nat) (entry : Entry) : Except Fault Row :=
  match entry with
  | .drawing text =>
      match text.toList.dropWhile Cell.isMark with
      | [] => .ok (.drawn (.ofDrawing text))
      | found :: _ =>
          .error (.foreignCharacter row ((text.toList.takeWhile Cell.isMark).length + 1) found)
  | .distribute count =>
      if positive : 0 < count then .ok (.even count positive) else .error (.noCells row)

/-- The rows that entries stand for, after `passed` earlier ones. -/
def toRows (passed : Nat) : List Entry → Except Fault (List Row)
  | [] => .ok []
  | entry :: rest =>
      match entry.toRow (passed + 1) with
      | .error fault => .error fault
      | .ok row => (toRows (passed + 1) rest).map (row :: ·)

end Entry

/-- The rows of a grid, or the first fault from the top. -/
def Spec.rows (spec : Spec) : Except Entry.Fault (List Row) :=
  Entry.toRows 0 spec.entries

/-- The rows of a grid as they are held. Whether there is a fault does not depend on any count being cut off. -/
def Spec.heldRows (spec : Spec) : Except Entry.Fault (List Row) :=
  spec.rows.map (List.map Row.held)

end FlexGrid
