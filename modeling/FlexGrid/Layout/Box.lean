import FlexGrid.Layout.Plan

/-! Where the cells of a layout come to lie in a container of a given width. A cell is a box there: its width
between two margins. Boxes stand side by side, and one that does not fit on a line begins the next. -/
namespace FlexGrid

/-- The width of a cell and of the margins before and after it, in pixels. -/
structure Box (α : Type) where
  before : α
  width : α
  after : α
deriving DecidableEq

namespace Box

variable {α : Type} [Scalar α]

/-- What a box takes up of a line. -/
def outer (box : Box α) : α :=
  box.before + box.width + box.after

variable [LT α] [DecidableLT α]

/-- The lines of boxes that follow others, of which the last `line` is filled up to `used`. -/
def linesFrom (container used : α) (line : Nat) : List (Box α) → List Nat
  | [] => []
  | box :: rest =>
      if container < used + box.outer then
        (line + 1) :: linesFrom container box.outer (line + 1) rest
      else line :: linesFrom container (used + box.outer) line rest

/-- The lines that boxes wrap to, counted from one. The first box of a line stays there however wide it
is. -/
def lines (container : α) : List (Box α) → List Nat
  | [] => []
  | box :: rest => 1 :: linesFrom container box.outer 1 rest

end Box

namespace Plan

variable {α : Type} [Scalar α]

end Plan

end FlexGrid
